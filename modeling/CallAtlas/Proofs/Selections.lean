import CallAtlas.Proofs.Opening

set_option autoImplicit false

/-!
# What settings select

Settings are written in many ways: with blanks around the parts of a list, with parts that are empty,
with grouping keys that come twice. Nothing of that is left in what they select. Written out again
it selects itself, and settings that select nothing say which part of the group or which depth is at
fault.
-/

namespace CallAtlas

theorem GroupKey.text_injective {k l : GroupKey} (h : k.text = l.text) : k = l := by
  cases k <;> cases l <;> simp_all [text]

structure Firsts (parts : List String) (keys : List GroupKey) : Prop where
  named : ∀ k, k ∈ keys ↔ k.text ∈ parts
  ordered : keys.Pairwise fun k l => parts.idxOf k.text < parts.idxOf l.text

namespace Firsts

variable {seen parts : List String} {found keys : List GroupKey} {part : String} {k : GroupKey}

theorem nodup (h : Firsts parts keys) : keys.Nodup :=
  h.ordered.imp fun before => by
    rintro rfl
    exact Nat.lt_irrefl _ before

theorem concat (h : Firsts seen found) (named : GroupKey.ofText? part = some k) :
    Firsts (seen ++ [part]) (if k ∈ found then found else found ++ [k]) := by
  obtain rfl : part = k.text := GroupKey.ofText?_eq_some_iff.1 named
  have kept : found.Pairwise fun l m =>
      (seen ++ [k.text]).idxOf l.text < (seen ++ [k.text]).idxOf m.text := by
    refine h.ordered.imp_of_mem fun {l m} hl hm before => ?_
    rwa [List.idxOf_append_of_mem ((h.named l).1 hl), List.idxOf_append_of_mem ((h.named m).1 hm)]
  by_cases known : k ∈ found
  · rw [if_pos known]
    refine ⟨fun l => ?_, kept⟩
    rw [List.mem_append, List.mem_singleton, h.named]
    constructor
    · exact .inl
    · rintro (old | same)
      · exact old
      · exact same ▸ (h.named k).1 known
  · rw [if_neg known]
    refine ⟨fun l => ?_, List.pairwise_append.2 ⟨kept, List.pairwise_singleton _ k, ?_⟩⟩
    · rw [List.mem_append, List.mem_append, List.mem_singleton, List.mem_singleton, h.named]
      exact or_congr_right ⟨congrArg GroupKey.text, GroupKey.text_injective⟩
    · intro l hl m hm
      obtain rfl := List.mem_singleton.1 hm
      have old : seen.idxOf l.text < seen.length := List.idxOf_lt_length_iff.2 ((h.named l).1 hl)
      rw [List.idxOf_append_of_mem ((h.named l).1 hl),
        List.idxOf_append_of_notMem fun met => known ((h.named m).2 met)]
      omega

theorem append (h : Firsts seen found) (ok : groupKeys found parts = .ok keys) :
    Firsts (seen ++ parts) keys := by
  induction parts generalizing seen found with
  | nil =>
    cases ok
    simpa using h
  | cons part parts ih =>
    rw [groupKeys] at ok
    split at ok
    · cases ok
    · rename_i k named
      simpa using ih (h.concat named) ok

theorem of_groupKeysOf {s : String} (ok : groupKeysOf s = .ok keys) :
    Firsts (commaList s) keys := by
  have nothing : Firsts [] [] := ⟨by simp, .nil⟩
  simpa using nothing.append ok

end Firsts

theorem groupKeys_texts {found keys : List GroupKey} (nodup : (found ++ keys).Nodup) :
    groupKeys found (keys.map GroupKey.text) = .ok (found ++ keys) := by
  induction keys generalizing found with
  | nil => simp [groupKeys]
  | cons k keys ih =>
    have new : k ∉ found := fun known =>
      (List.nodup_append.1 nodup).2.2 k known k List.mem_cons_self rfl
    rw [List.append_cons] at nodup ⊢
    rw [List.map_cons, groupKeys, GroupKey.ofText?_eq_some_iff.2 rfl]
    dsimp only
    rw [if_neg new, ih nodup]

theorem groupKeys_of_first {found : List GroupKey} {before after : List String} {part : String}
    (keys : ∀ p ∈ before, p ∈ ["pkg", "type"]) (other : part ∉ ["pkg", "type"]) :
    groupKeys found (before ++ part :: after) = .error (.invalidGroup part) := by
  induction before generalizing found with
  | nil =>
    have unknown : GroupKey.ofText? part = none :=
      Option.eq_none_iff_forall_ne_some.2 fun k named =>
        other (GroupKey.exists_ofText?_iff.1 ⟨k, named⟩)
    rw [List.nil_append, groupKeys, unknown]
  | cons p before ih =>
    obtain ⟨k, named⟩ := GroupKey.exists_ofText?_iff.2 (keys p List.mem_cons_self)
    rw [List.cons_append, groupKeys, named]
    exact ih fun q hq => keys q (List.mem_cons_of_mem p hq)

def Selection.written (n : Selection) : Settings where
  focus := n.focus
  group := ",".intercalate (n.group.map GroupKey.text)
  ignore := ",".intercalate n.ignore
  only := ",".intercalate n.only
  limit := ",".intercalate n.limit
  hideWrappers := n.hideWrappers
  hideStd := n.hideStd
  limitDepth := n.limitDepth

/-- What settings select, with nothing left of the way they are written. -/
structure Settings.SelectsTidily (o : Settings) (n : Selection) : Prop where
  parts : ∀ part ∈ n.ignore ++ n.only ++ n.limit,
    part ≠ "" ∧ ',' ∉ part.toList ∧ Text.Trimmed part
  focus : Text.Trimmed n.focus
  nodup : n.group.Nodup
  firsts : Firsts (commaList o.group) n.group
  settled : n.written.select = .ok n

namespace Settings

variable {o : Settings} {n : Selection}

theorem select_eq_ok_iff : o.select = .ok n ↔
    groupKeysOf o.group = .ok n.group ∧ 1 ≤ o.limitDepth ∧
      n = { focus := Text.trim o.focus, group := n.group, ignore := commaList o.ignore
            only := commaList o.only, limit := commaList o.limit, hideWrappers := o.hideWrappers
            hideStd := o.hideStd, limitDepth := o.limitDepth.toNat } := by
  unfold select
  cases groupKeysOf o.group with
  | error e => simp
  | ok keys =>
    by_cases low : o.limitDepth < 1
    · simp [low]
    · simp only [low, if_false, Except.ok.injEq]
      constructor
      · rintro rfl
        exact ⟨rfl, by omega, rfl⟩
      · rintro ⟨rfl, -, same⟩
        exact same.symm

theorem select_written (trimmed : Text.Trimmed n.focus) (nodup : n.group.Nodup)
    (parts : ∀ part ∈ n.ignore ++ n.only ++ n.limit, IsListPart part) (depth : 1 ≤ n.limitDepth) :
    n.written.select = .ok n := by
  have ignore : commaList (",".intercalate n.ignore) = n.ignore :=
    commaList_intercalate fun part hp => parts part (by simp [hp])
  have only : commaList (",".intercalate n.only) = n.only :=
    commaList_intercalate fun part hp => parts part (by simp [hp])
  have limit : commaList (",".intercalate n.limit) = n.limit :=
    commaList_intercalate fun part hp => parts part (by simp [hp])
  have group : groupKeysOf n.written.group = .ok n.group := by
    have keys : ∀ part ∈ n.group.map GroupKey.text, IsListPart part := by
      intro part hp
      obtain ⟨k, -, rfl⟩ := List.mem_map.1 hp
      exact k.isListPart_text
    change groupKeys [] (commaList (",".intercalate (n.group.map GroupKey.text))) = _
    rw [commaList_intercalate keys, groupKeys_texts (by simpa using nodup), List.nil_append]
  apply select_eq_ok_iff.2
  refine ⟨group, ?_, ?_⟩
  · change 1 ≤ (n.limitDepth : Int)
    omega
  · simp only [Selection.written, Text.trim_of_trimmed trimmed, ignore, only, limit,
      Int.toNat_natCast]

theorem selectsTidily (h : o.select = .ok n) : o.SelectsTidily n := by
  obtain ⟨group, depth, same⟩ := select_eq_ok_iff.1 h
  have firsts := Firsts.of_groupKeysOf group
  have focus : Text.Trimmed n.focus := by
    rw [same]
    exact Text.trimmed_trim o.focus
  have parts : ∀ part ∈ n.ignore ++ n.only ++ n.limit, IsListPart part := by
    rw [same]
    intro part hp
    simp only [List.mem_append] at hp
    rcases hp with (hp | hp) | hp <;> exact isListPart_of_mem hp
  have positive : 1 ≤ n.limitDepth := by
    rw [same]
    change 1 ≤ o.limitDepth.toNat
    omega
  refine ⟨fun part hp => ?_, focus, firsts.nodup, firsts,
    select_written focus firsts.nodup parts positive⟩
  obtain ⟨given, trimmed, clean⟩ := parts part hp
  refine ⟨given, clean, ?_⟩
  rw [← trimmed]
  exact Text.trimmed_trim part

theorem select_of_groupKeysOf_error {e : SettingsError} (h : groupKeysOf o.group = .error e) :
    o.select = .error e := by
  rw [select, h]

theorem exists_select_error_iff : (∃ e, o.select = .error e) ↔
    (∃ part ∈ commaList o.group, part ∉ ["pkg", "type"]) ∨ o.limitDepth < 1 := by
  have valid : (∃ keys, groupKeysOf o.group = .ok keys) ↔
      ∀ part ∈ commaList o.group, part ∈ ["pkg", "type"] := exists_groupKeys_iff
  cases group : groupKeysOf o.group with
  | error e =>
    have other : ∃ part ∈ commaList o.group, part ∉ ["pkg", "type"] := by
      rw [group] at valid
      simpa using valid
    exact iff_of_true ⟨e, select_of_groupKeysOf_error group⟩ (.inl other)
  | ok keys =>
    have known := valid.1 ⟨keys, group⟩
    have none : ¬ ∃ part ∈ commaList o.group, part ∉ ["pkg", "type"] :=
      fun ⟨part, hp, other⟩ => other (known part hp)
    rw [or_iff_right none, select, group]
    by_cases low : o.limitDepth < 1 <;> simp [low]

/-- Settings select something tidy that selects itself, or they are refused. What is refused is the
first part of the group that is no key, even if the depth is wrong as well. -/
theorem select_stable (o : Settings) :
    (∀ n, o.select = .ok n → o.SelectsTidily n) ∧
    ((∃ e, o.select = .error e) ↔
      (∃ part ∈ commaList o.group, part ∉ ["pkg", "type"]) ∨ o.limitDepth < 1) ∧
    (∀ before part after, commaList o.group = before ++ part :: after →
      (∀ p ∈ before, p ∈ ["pkg", "type"]) → part ∉ ["pkg", "type"] →
        ∃ e, o.select = .error e ∧ e.message = "invalid group option: " ++ part) ∧
    ((∀ part ∈ commaList o.group, part ∈ ["pkg", "type"]) → o.limitDepth < 1 →
      ∃ e, o.select = .error e ∧ e.message = "invalid limit depth: " ++ toString o.limitDepth) := by
  refine ⟨fun n => selectsTidily, exists_select_error_iff, ?_, ?_⟩
  · intro before part after split keys other
    have group : groupKeysOf o.group = .error (.invalidGroup part) := by
      rw [groupKeysOf, split]
      exact groupKeys_of_first keys other
    exact ⟨_, select_of_groupKeysOf_error group, rfl⟩
  · intro keys low
    obtain ⟨group, ok⟩ := exists_groupKeys_iff.2 keys
    refine ⟨.invalidLimitDepth o.limitDepth, ?_, rfl⟩
    rw [select, groupKeysOf, ok]
    exact if_pos low

def scrawled : Settings where
  focus := "\tapp/util "
  group := " type,, pkg ,type"
  ignore := "fmt, ,\u2003lib/"
  limit := ",x y ,"
  limitDepth := 3

theorem select_stable_scrawled :
    (∃ n, scrawled.select = .ok n ∧ scrawled.SelectsTidily n ∧
      n.written = { focus := "app/util", group := "type,pkg", ignore := "fmt,lib/", limit := "x y"
                    limitDepth := 3 }) ∧
    ∃ e, { scrawled with group := "pkg, file ,type,x", limitDepth := 0 }.select = .error e ∧
      e.message = "invalid group option: file" := by
  have selected : scrawled.select = .ok
      { focus := "app/util", group := [.receiver, .package], ignore := ["fmt", "lib/"]
        limit := ["x y"], limitDepth := 3 } := by decide
  have refused := (select_stable { scrawled with group := "pkg, file ,type,x", limitDepth := 0 }).2.2.1
  exact ⟨⟨_, selected, (select_stable scrawled).1 _ selected, by decide⟩,
    refused ["pkg"] "file" ["type", "x"] (by decide) (by decide) (by decide)⟩

end Settings

end CallAtlas
