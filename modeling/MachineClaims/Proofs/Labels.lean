import MachineClaims.Proofs.Keyed

/-!
# What labels and marks of a machine survive

Each way to change a machine, and what it does to the membership label, the mark and the owner.
Joining and leaving again gives back a machine that was no member (`left_joined`), so a release
leaves nothing but a mark and a newer version behind.
-/

namespace MachineClaims

/-- Objects that differ at most in their versions. -/
def Kind.Alike (k : Kind) (a b : k.Object) : Prop := ∃ version, b = k.withVersion a version

namespace Kind

variable {k : Kind} {a b : k.Object}

theorem Alike.refl (a : k.Object) : k.Alike a a := ⟨_, (k.withVersion_self a).symm⟩

theorem alike_bump (a : k.Object) : k.Alike a (k.bump a) := ⟨_, rfl⟩

theorem Alike.bump (h : k.Alike a b) : k.Alike a (k.bump b) := by
  obtain ⟨version, rfl⟩ := h
  exact ⟨_, k.withVersion_withVersion a _ _⟩

end Kind

theorem NameMap.erase_insert_of_none {α : Type} {m : NameMap α} {key : String} (value : α)
    (h : m.get? key = none) : (m.insert key value).erase key = m := by
  refine ext_get? fun k => ?_
  rw [get?_erase, get?_insert]
  by_cases hk : k = key
  · rw [if_pos hk, hk, h]
  · rw [if_neg hk, if_neg hk]

namespace Machine

private theorem memberLabel_ne_ownerLabel : ownerLabel ≠ memberLabel := by decide

/-- What a release leaves of a machine. -/
def released (m : Machine) (now : Nat) : Machine :=
  if m.isMarked then m.left else m.left.marked (Text.decimal now)

/-- A machine with a mark. One that has a mark keeps it. -/
def condemned (m : Machine) (now : Nat) : Machine :=
  if m.isMarked then m else m.marked (Text.decimal now)

variable (m : Machine) (now : Nat) (mark : String)

@[simp] theorem key_joined : m.joined.header.key = m.header.key := rfl

@[simp] theorem key_bump : (Kind.machine.bump m).header.key = m.header.key := rfl

@[simp] theorem key_released : (m.released now).header.key = m.header.key := by
  unfold released
  split <;> rfl

@[simp] theorem version_released : (m.released now).header.version = m.header.version := by
  unfold released
  split <;> rfl

@[simp] theorem isMember_joined : m.joined.isMember = true := by
  simp [isMember, joined, Header.withLabel, NameMap.contains]

@[simp] theorem isMarked_joined : m.joined.isMarked = m.isMarked := rfl

@[simp] theorem isMember_left : m.left.isMember = false := by
  simp [isMember, left, Header.withoutLabel, NameMap.contains]

@[simp] theorem isMarked_left : m.left.isMarked = m.isMarked := rfl

@[simp] theorem isMember_marked : (m.marked mark).isMember = m.isMember := rfl

@[simp] theorem isMarked_marked : (m.marked mark).isMarked = true := by
  simp [isMarked, marked, Header.annotate, NameMap.contains]

@[simp] theorem isMember_bump : (Kind.machine.bump m).isMember = m.isMember := rfl

@[simp] theorem isMarked_bump : (Kind.machine.bump m).isMarked = m.isMarked := rfl

@[simp] theorem owner?_bump : (Kind.machine.bump m).owner? = m.owner? := rfl

@[simp] theorem owner?_joined : m.joined.owner? = m.owner? :=
  NameMap.get?_insert_of_ne _ _ memberLabel_ne_ownerLabel

@[simp] theorem owner?_released : (m.released now).owner? = m.owner? := by
  have hleft : m.left.owner? = m.owner? := by
    simp [owner?, left, Header.withoutLabel, NameMap.get?_erase, memberLabel_ne_ownerLabel]
  unfold released
  split
  · exact hleft
  · exact hleft

@[simp] theorem space_released : (m.released now).header.space = m.header.space := by
  unfold released
  split <;> rfl

@[simp] theorem isMember_released : (m.released now).isMember = false := by
  unfold released
  split <;> simp

@[simp] theorem isMarked_released : (m.released now).isMarked = true := by
  unfold released
  split <;> simp_all

variable {m}

theorem left_joined (h : m.isMember = false) : m.joined.left = m := by
  have hnone : m.header.labels.get? memberLabel = none := by
    simpa [isMember, NameMap.contains] using h
  simp [joined, left, Header.withLabel, Header.withoutLabel, NameMap.erase_insert_of_none _ hnone]

theorem left_of_not_isMember (h : m.isMember = false) : m.left = m := by
  have hnone : m.header.labels.get? memberLabel = none := by
    simpa [isMember, NameMap.contains] using h
  have herase : m.header.labels.erase memberLabel = m.header.labels := by
    refine NameMap.ext_get? fun key => ?_
    rw [NameMap.get?_erase]
    by_cases hk : key = memberLabel
    · rw [if_pos hk, hk, hnone]
    · rw [if_neg hk]
  simp [left, Header.withoutLabel, herase]

theorem released_of_not_isMember (h : m.isMember = false) : m.released now = m.condemned now := by
  unfold released condemned
  rw [left_of_not_isMember h]

theorem alike_released_joined (h : m.isMember = false) :
    Kind.machine.Alike (m.condemned now) ((Kind.machine.bump m.joined).released now) := by
  refine ⟨m.header.version + 1, ?_⟩
  have hleft : (Kind.machine.bump m.joined).left = Kind.machine.bump m.joined.left := rfl
  unfold released condemned
  rw [hleft, left_joined h, isMarked_bump, isMarked_joined]
  split <;> rfl

end Machine
end MachineClaims
