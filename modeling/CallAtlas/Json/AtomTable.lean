import CallAtlas.Json.Atom
set_option autoImplicit false

/-!
# Tables under atoms

A table whose entries are known by atoms, in the order they were met in. Of several forms of an atom the
first one stays, and what is said of it last counts; `find?_put` says what is found afterwards.
-/

namespace CallAtlas.Atom

abbrev Table (α : Type) := List (Atom × α)

namespace Table

variable {α : Type}

def keyOf (e : Atom × α) : Atom := e.1.key

def find? (t : Table α) (a : Atom) : Option α := (Roster.find? keyOf a.key t).map Prod.snd

def put (t : Table α) (a : Atom) (value : α) : Table α :=
  Roster.putWith keyOf (fun known e => (known.1, e.2)) (a, value) t

def ofList (entries : List (Atom × α)) : Table α := entries.foldl (fun t e => t.put e.1 e.2) []

theorem find?_put (t : Table α) (a b : Atom) (value : α) :
    (t.put a value).find? b = if a.same b then some value else t.find? b := by
  have keeps (e d : Atom × α) (h : keyOf d = keyOf e) : keyOf (d.1, e.2) = keyOf e := h
  rw [find?, put, Roster.find?_putWith keeps]
  by_cases h : a.key = b.key
  · have hk : keyOf (a, value) = b.key := h
    rw [if_pos hk, if_pos (by simpa [same] using h)]
    cases Roster.find? keyOf b.key t <;> rfl
  · have hk : keyOf (a, value) ≠ b.key := h
    rw [if_neg hk, if_neg (by simpa [same] using h)]
    rfl

theorem find?_foldl_put (entries : List (Atom × α)) (t : Table α) (a : Atom) :
    (entries.foldl (fun t e => t.put e.1 e.2) t).find? a =
      ((entries.reverse.find? fun e => e.1.same a).map Prod.snd).or (t.find? a) := by
  induction entries generalizing t with
  | nil => rfl
  | cons e es ih =>
    rw [List.foldl_cons, ih, find?_put, List.reverse_cons, List.find?_append, Option.map_or,
      Option.or_assoc]
    by_cases h : e.1.same a <;> simp [h]

theorem find?_ofList (entries : List (Atom × α)) (a : Atom) :
    (ofList entries).find? a = (entries.reverse.find? fun e => e.1.same a).map Prod.snd := by
  rw [ofList, find?_foldl_put]
  exact Option.or_none

theorem exists_of_find?_ofList {entries : List (Atom × α)} {a : Atom} {value : α}
    (h : (ofList entries).find? a = some value) :
    ∃ e ∈ entries, e.1.same a = true ∧ e.2 = value := by
  rw [find?_ofList, Option.map_eq_some_iff] at h
  obtain ⟨e, he, hv⟩ := h
  have same := List.find?_some (p := fun e : Atom × α => e.1.same a) he
  exact ⟨e, List.mem_reverse.1 (List.mem_of_find?_eq_some he), same, hv⟩

theorem find?_ofList_eq_none {entries : List (Atom × α)} {a : Atom} :
    (ofList entries).find? a = none ↔ ∀ e ∈ entries, ¬ e.1.same a = true := by
  rw [find?_ofList, Option.map_eq_none_iff, List.find?_eq_none]
  simp only [List.mem_reverse]

end Table

end CallAtlas.Atom
