import CallAtlas.Settings
import Mathlib.Data.List.Basic

set_option autoImplicit false

/-!
# Revisions

A request revises settings value by value. There are four rules for what a value does to what was
there before, and all of them overwrite: an empty value does nothing, and any other makes whatever
came before it of no account. So requests that follow each other revise like one request that holds
the last value given for each name.
-/

namespace CallAtlas

/-- A rule by which a value revises what was there before. An empty value changes nothing, and what
comes before any other value does not matter. -/
structure Overwrites {α : Type} (rule : String → α → α) : Prop where
  silent : ∀ x, rule "" x = x
  settled : ∀ v w x, v ≠ "" → rule v (rule w x) = rule v x

theorem Overwrites.twice {α : Type} {rule : String → α → α} (h : Overwrites rule)
    (v w : String) (x : α) : rule w (rule v x) = rule (if w = "" then v else w) x := by
  by_cases silent : w = ""
  · rw [if_pos silent, silent, h.silent]
  · rw [if_neg silent, h.settled w v x silent]

namespace Form

def names : List String := ["f", "std", "nointer", "group", "limit", "ignore", "include"]

/-- For each name that counts, `c` holds what `b` says, or what `a` says where `b` is silent. -/
def Merges (c a b : Form) : Prop :=
  ∀ name ∈ names, c.get name = if b.get name = "" then a.get name else b.get name

instance (c a b : Form) : Decidable (Merges c a b) := inferInstanceAs (Decidable (∀ _ ∈ _, _))

def merged (a b : Form) : Form where
  values := names.map fun name => (name, some (if b.get name = "" then a.get name else b.get name))

theorem merged_merges (a b : Form) : (a.merged b).Merges a b := by
  simp [Merges, merged, names, get]

end Form

namespace Settings

/-- The focus is set, or taken away by a word. -/
def refocus (v focus : String) : String :=
  if v = clearFocus then "" else if v = "" then focus else v

def replace (v text : String) : String := if v = "" then text else v

def turnOn (v : String) (flag : Bool) : Bool := flag || v ≠ ""

def turnOff (v : String) (flag : Bool) : Bool := flag && v = ""

theorem overwrites_refocus : Overwrites refocus where
  silent focus := by simp [refocus, clearFocus]
  settled v w focus given := by simp [refocus, given]

theorem overwrites_replace : Overwrites replace where
  silent text := by simp [replace]
  settled v w text given := by simp [replace, given]

theorem overwrites_turnOn : Overwrites turnOn where
  silent flag := by simp [turnOn]
  settled v w flag given := by simp [turnOn, given]

theorem overwrites_turnOff : Overwrites turnOff where
  silent flag := by simp [turnOff]
  settled v w flag given := by simp [turnOff, given]

theorem revised_eq (o : Settings) (form : Form) : o.revised form =
    { focus := refocus (form.get "f") o.focus
      group := replace (form.get "group") o.group
      ignore := replace (form.get "ignore") o.ignore
      only := replace (form.get "include") o.only
      limit := replace (form.get "limit") o.limit
      hideWrappers := turnOn (form.get "nointer") o.hideWrappers
      hideStd := turnOff (form.get "std") o.hideStd
      limitDepth := o.limitDepth } := rfl

variable {a b c : Form}

theorem revised_congr (same : ∀ name ∈ Form.names, a.get name = b.get name) (o : Settings) :
    o.revised a = o.revised b := by
  simp only [Form.names, List.forall_mem_cons] at same
  obtain ⟨f, std, nointer, group, limit, ignore, only, -⟩ := same
  rw [revised_eq, revised_eq, f, std, nointer, group, limit, ignore, only]

theorem revised_revised (h : c.Merges a b) (o : Settings) :
    (o.revised a).revised b = o.revised c := by
  simp only [Form.Merges, Form.names, List.forall_mem_cons] at h
  obtain ⟨f, std, nointer, group, limit, ignore, only, -⟩ := h
  rw [revised_eq o c, f, std, nointer, group, limit, ignore, only,
    ← overwrites_refocus.twice, ← overwrites_turnOff.twice, ← overwrites_turnOn.twice,
    ← overwrites_replace.twice, ← overwrites_replace.twice, ← overwrites_replace.twice,
    ← overwrites_replace.twice]
  rfl

theorem revised_self (o : Settings) (a : Form) : (o.revised a).revised a = o.revised a := by
  apply revised_revised
  intro name _
  simp

theorem revised_nil (o : Settings) : o.revised ⟨[]⟩ = o := by
  have silent (name : String) : (Form.mk []).get name = "" := rfl
  simp only [revised_eq, silent, overwrites_refocus.silent, overwrites_replace.silent,
    overwrites_turnOn.silent, overwrites_turnOff.silent]

theorem foldl_revised (o : Settings) (a : Form) (forms : List Form) :
    forms.foldl revised (o.revised a) = o.revised (forms.foldl Form.merged a) := by
  induction forms generalizing a with
  | nil => rfl
  | cons b forms ih =>
    rw [List.foldl_cons, List.foldl_cons, revised_revised (Form.merged_merges a b), ih]

/-- What may come of settings while requests revise them: the depth stays, the standard library is
only ever shown and wrappers are only ever hidden. -/
structure Becomes (o o' : Settings) : Prop where
  depth : o'.limitDepth = o.limitDepth
  std : o'.hideStd = true → o.hideStd = true
  wrappers : o.hideWrappers = true → o'.hideWrappers = true

theorem Becomes.refl (o : Settings) : o.Becomes o := ⟨rfl, id, id⟩

theorem Becomes.trans {o o' o'' : Settings} (h : o.Becomes o') (h' : o'.Becomes o'') :
    o.Becomes o'' :=
  ⟨h'.depth.trans h.depth, h.std ∘ h'.std, h'.wrappers ∘ h.wrappers⟩

theorem becomes_revised (o : Settings) (form : Form) : o.Becomes (o.revised form) := by
  rw [revised_eq]
  refine ⟨rfl, ?_, ?_⟩
  · intro hidden
    exact (Bool.and_eq_true_iff.1 hidden).1
  · intro hidden
    exact Bool.or_eq_true_iff.2 (.inl hidden)

theorem becomes_foldl_revised (o : Settings) (forms : List Form) :
    o.Becomes (forms.foldl revised o) := by
  induction forms generalizing o with
  | nil => exact .refl o
  | cons form forms ih => exact (becomes_revised o form).trans (ih (o.revised form))

/-- Two requests revise like one that holds the later values, and so do any number of them. -/
theorem revised_compose (o : Settings) :
    (∀ a b c : Form, c.Merges a b → (o.revised a).revised b = o.revised c) ∧
    (∀ a b : Form, (a.merged b).Merges a b) ∧
    (∀ a : Form, (o.revised a).revised a = o.revised a) ∧
    (∀ a b : Form, (∀ name ∈ Form.names, a.get name = b.get name) → o.revised a = o.revised b) ∧
    (∀ forms : List Form, forms.foldl revised o = o.revised (forms.foldl Form.merged ⟨[]⟩)) ∧
    ∀ before after : List Form,
      (before.foldl revised o).Becomes ((before ++ after).foldl revised o) := by
  refine ⟨fun a b c h => revised_revised h o, Form.merged_merges, revised_self o,
    fun a b same => revised_congr same o, fun forms => ?_, fun before after => ?_⟩
  · rw [← foldl_revised, revised_nil]
  · rw [List.foldl_append]
    exact becomes_foldl_revised _ after

/-- The focus is taken away again, the standard library is not hidden again, and what is no name of a
request is left out. -/
theorem revised_compose_cleared :
    let a : Form := ⟨[("f", some "lib"), ("std", some "0"), ("group", some "type")]⟩
    let b : Form := ⟨[("f", some "all"), ("std", none), ("group", some ""), ("lang", some "en")]⟩
    let c : Form := ⟨[("group", some "type"), ("std", some "0"), ("f", some "all")]⟩
    c.Merges a b ∧ (({ focus := "app", hideStd := true } : Settings).revised a).revised b =
      { group := "type" } := by
  intro a b c
  have merges : c.Merges a b := by decide
  have once := (revised_compose { focus := "app", hideStd := true }).1 a b c merges
  exact ⟨merges, once.trans (by decide)⟩

end Settings

end CallAtlas
