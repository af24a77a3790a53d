import MachineClaims.Header
import Mathlib.Logic.Basic

/-!
# Keys and the identities that they are made from

The key of an object is one text, its namespace and its name with a slash in between. Neither of the
two is restricted, so a key can be read in several ways, one for each of its slashes
(`Identity.key_eq_iff`), and it belongs to one identity alone just if this has no slash of its own
(`Identity.exists_collides_iff`).
-/

namespace MachineClaims

theorem toList_objectKey (space name : String) :
    (objectKey space name).toList = space.toList ++ '/' :: name.toList := by
  simp [objectKey]

/-- What names an object among those of its kind. -/
structure Identity where
  space : String
  name : String
deriving DecidableEq

/-- The identity of an object. -/
def Header.identity (h : Header) : Identity := ⟨h.space, h.name⟩

namespace Identity

/-- The key under which an object of this identity is stored. -/
def key (i : Identity) : String := objectKey i.space i.name

/-- The name of `i` begins with a part that stands at the end of the namespace of `j`. -/
def Shifts (i j : Identity) : Prop :=
  ∃ part, j.space = i.space ++ "/" ++ part ∧ i.name = part ++ "/" ++ j.name

/-- Two identities are read from one key at different slashes. -/
def Collides (i j : Identity) : Prop := i.Shifts j ∨ j.Shifts i

/-- No part of the identity has a slash. -/
def Plain (i : Identity) : Prop := '/' ∉ i.space.toList ∧ '/' ∉ i.name.toList

instance (i : Identity) : Decidable i.Plain := by unfold Plain; infer_instance

variable {i j : Identity}

theorem Shifts.key_eq (h : i.Shifts j) : i.key = j.key := by
  obtain ⟨part, hspace, hname⟩ := h
  simp only [key, objectKey, hspace, hname, String.append_assoc]

/-- The two slashes at which a key is read are one, or there is a part between them. -/
private theorem eq_or_shifts {between : List Char}
    (hspace : j.space.toList = i.space.toList ++ between)
    (hname : '/' :: i.name.toList = between ++ '/' :: j.name.toList) : i = j ∨ i.Shifts j := by
  rcases List.cons_eq_append_iff.1 hname with ⟨rfl, hsame⟩ | ⟨part, rfl, hpart⟩
  · left
    rw [List.append_nil] at hspace
    obtain ⟨hi, hj⟩ : j.space = i.space ∧ j.name = i.name :=
      ⟨String.toList_inj.1 hspace, String.toList_inj.1 (List.cons.inj hsame).2⟩
    cases i
    cases j
    simp_all
  · right
    refine ⟨String.ofList part, String.toList_inj.1 ?_, String.toList_inj.1 ?_⟩
    · simpa using hspace
    · simpa using hpart

/-- One key is made from identities that are equal or collide. -/
theorem key_eq_iff : i.key = j.key ↔ i = j ∨ i.Collides j := by
  constructor
  · intro h
    have hlist := congrArg String.toList h
    rw [key, key, toList_objectKey, toList_objectKey] at hlist
    rcases List.append_eq_append_iff.1 hlist with ⟨between, hspace, hname⟩ | ⟨between, hspace, hname⟩
    · exact (eq_or_shifts hspace hname).imp_right .inl
    · exact (eq_or_shifts hspace hname).imp Eq.symm .inr
  · rintro (rfl | h | h)
    · rfl
    · exact h.key_eq
    · exact h.key_eq.symm

theorem Shifts.ne (h : i.Shifts j) : i ≠ j := by
  rintro rfl
  obtain ⟨part, hspace, -⟩ := h
  have hlength := congrArg String.length hspace
  simp only [String.length_append] at hlength
  have hslash : "/".length = 1 := rfl
  omega

theorem Collides.symm (h : i.Collides j) : j.Collides i := Or.symm h

theorem Collides.ne (h : i.Collides j) : i ≠ j := h.elim Shifts.ne fun h => h.ne.symm

theorem Shifts.not_plain (h : i.Shifts j) : ¬ i.Plain ∧ ¬ j.Plain := by
  obtain ⟨part, hspace, hname⟩ := h
  simp [Plain, hspace, hname]

private theorem exists_split {text : String} (h : '/' ∈ text.toList) :
    ∃ a b, text = a ++ "/" ++ b := by
  obtain ⟨a, b, hab⟩ := List.append_of_mem h
  refine ⟨String.ofList a, String.ofList b, String.toList_inj.1 ?_⟩
  simpa using hab

/-- There is an identity that this one collides with just if it has a slash. -/
theorem exists_collides_iff : (∃ j, i.Collides j) ↔ ¬ i.Plain := by
  constructor
  · rintro ⟨j, h | h⟩
    · exact h.not_plain.1
    · exact h.not_plain.2
  · intro h
    rw [Plain, not_and_or, not_not, not_not] at h
    rcases h with h | h
    · obtain ⟨a, b, hspace⟩ := exists_split h
      exact ⟨⟨a, b ++ "/" ++ i.name⟩, .inr ⟨b, hspace, rfl⟩⟩
    · obtain ⟨a, b, hname⟩ := exists_split h
      exact ⟨⟨i.space ++ "/" ++ a, b⟩, .inl ⟨a, rfl, hname⟩⟩

end Identity

end MachineClaims
