import Mathlib.Data.List.Nodup
import DiskFixture.Value

/-!
Named values laid over others. Main statements: of the entries that are laid over fields, the last
one of a key decides what the key stands for, and the fields decide where there is none; and entries
that were first laid over nothing at all count like the entries themselves.
-/

namespace DiskFixture.Fields

variable {base upper front rest : Fields} {key : String} {value : Value}

/-- The value in the last entry of a key, which may have several. -/
def last? : Fields → String → Option Value
  | [], _ => none
  | (name, value) :: rest, key => (last? rest key).or (if name = key then some value else none)

theorem last?_eq_none (free : ∀ entry ∈ upper, entry.1 ≠ key) : last? upper key = none := by
  induction upper with
  | nil => rfl
  | cons entry rest ih =>
    obtain ⟨name, value⟩ := entry
    have different : name ≠ key := free _ List.mem_cons_self
    rw [last?, ih fun other member => free other (List.mem_cons_of_mem _ member),
      if_neg different]
    rfl

theorem last?_append (front rest : Fields) (key : String) :
    last? (front ++ rest) key = (last? rest key).or (last? front key) := by
  induction front with
  | nil => simp [last?]
  | cons entry front ih => simp only [List.cons_append, last?, ih, Option.or_assoc]

/-- An entry behind which the key does not come up again is the last one. -/
theorem last?_eq_some (free : ∀ entry ∈ rest, entry.1 ≠ key) :
    last? (front ++ (key, value) :: rest) key = some value := by
  rw [last?_append, last?, last?_eq_none free, if_pos rfl]
  rfl

theorem get?_overlay (base upper : Fields) (key : String) :
    (overlay base upper).get? key = (last? upper key).or (base.get? key) := by
  induction upper generalizing base with
  | nil => rfl
  | cons entry rest ih =>
    obtain ⟨name, value⟩ := entry
    rw [overlay_cons, ih, last?, Option.or_assoc]
    congr 1
    by_cases same : name = key
    · subst same
      simp
    · rw [get?_put_of_ne base value (Ne.symm same), if_neg same]
      rfl

theorem get?_overlay_of_not_mem (free : ∀ entry ∈ upper, entry.1 ≠ key) :
    (overlay base upper).get? key = base.get? key := by
  rw [get?_overlay, last?_eq_none free]
  rfl

theorem overlay_append (base front rest : Fields) :
    overlay base (front ++ rest) = overlay (overlay base front) rest :=
  List.foldl_append

section Members

variable {fields : Fields} {entry : String × Value}

theorem mem_of_last? (last : last? fields key = some value) : (key, value) ∈ fields := by
  induction fields with
  | nil => cases last
  | cons entry rest ih =>
    obtain ⟨name, first⟩ := entry
    rw [last?] at last
    rcases Option.or_eq_some_iff.1 last with later | ⟨-, here⟩
    · exact List.mem_cons_of_mem _ (ih later)
    · split at here
      · next same =>
        cases here
        exact same ▸ List.mem_cons_self
      · cases here

end Members

section Names

def names (fields : Fields) : List String := fields.map Prod.fst

theorem last?_eq_none_of_names (free : key ∉ names upper) : last? upper key = none := by
  apply last?_eq_none
  rintro entry member rfl
  exact free (List.mem_map_of_mem member)

theorem names_put (fields : Fields) (key : String) (value : Value) :
    names (put fields key value)
      = if key ∈ names fields then names fields else names fields ++ [key] := by
  induction fields with
  | nil => rfl
  | cons entry rest ih =>
    obtain ⟨name, old⟩ := entry
    by_cases same : name = key
    · simp [put, names, same]
    · have other : put ((name, old) :: rest) key value = (name, old) :: put rest key value :=
        if_neg same
      have here : names ((name, old) :: put rest key value) = name :: names (put rest key value) :=
        rfl
      rw [other, here, ih]
      by_cases listed : key ∈ names rest <;> simp_all [names, Ne.symm same]

/-- Laying entries over fields that have each name once leaves each name once. -/
theorem nodup_names_overlay (distinct : (names base).Nodup) :
    (names (overlay base upper)).Nodup := by
  induction upper generalizing base with
  | nil => exact distinct
  | cons entry rest ih =>
    apply ih
    rw [names_put]
    split
    · exact distinct
    · next new =>
      rw [← List.concat_eq_append]
      exact distinct.concat new

theorem last?_eq_get? (distinct : (names upper).Nodup) (key : String) :
    last? upper key = upper.get? key := by
  induction upper with
  | nil => rfl
  | cons entry rest ih =>
    obtain ⟨name, value⟩ := entry
    obtain ⟨new, distinct⟩ := List.nodup_cons.1 distinct
    rw [last?, get?, ih distinct]
    by_cases same : name = key
    · subst same
      have absent : get? rest name = none := by
        rw [← ih distinct]
        exact last?_eq_none_of_names new
      rw [absent, if_pos rfl]
      rfl
    · rw [if_neg same, if_neg same, Option.or_none]

theorem get?_overlay_overlay (base members : Fields) (key : String) :
    (overlay base (overlay [] members)).get? key = (last? members key).or (base.get? key) := by
  have distinct : (names (overlay [] members)).Nodup := nodup_names_overlay List.nodup_nil
  rw [get?_overlay, last?_eq_get? distinct, get?_overlay]
  congr 1
  exact Option.or_none

end Names

end DiskFixture.Fields
