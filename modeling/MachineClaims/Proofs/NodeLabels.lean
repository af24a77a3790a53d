import MachineClaims.Propagation
import Mathlib.Data.List.Induction
import Mathlib.Data.List.TakeWhile
import Mathlib.Data.String.Basic

/-!
# Where the labels of a machine come from

A segment of the annotation assigns a value to a key (`Labels.Assigns`); of the segments that assign
to one key the last one counts (`MachineGroup.Announces`). The policy admits a key by its domain, whose
parts between dots end with all parts of a root (`Propagation.isUnder_iff`). Together they say which
labels the machines of a group get, and that what is no assignment has no effect
(`Propagation.nodeLabels_determined`).
-/

namespace MachineClaims

/-! ### Texts that are cut and split -/

section Cuts

variable {sep : Char} {cs a b : List Char}

/-- What is left behind the part without a separator is nothing or begins with one. -/
private theorem dropWhile_eq_nil_or (sep : Char) (cs : List Char) :
    cs.dropWhile (· != sep) = [] ∨ ∃ b, cs.dropWhile (· != sep) = sep :: b := by
  cases hrest : cs.dropWhile (· != sep) with
  | nil => exact .inl rfl
  | cons c b =>
    have hc := List.head?_dropWhile_not (· != sep) cs
    rw [hrest] at hc
    obtain rfl : c = sep := by simpa using hc
    exact .inr ⟨b, rfl⟩

private theorem ne_of_notMem (h : sep ∉ a) : ∀ c ∈ a, (c != sep) = true := fun c hc => by
  simpa using fun heq : c = sep => h (heq ▸ hc)

private theorem notMem_takeWhile : sep ∉ cs.takeWhile (· != sep) := fun hmem => by
  simpa using List.mem_takeWhile_imp hmem

/-- The part before the first separator, which is everything if there is none. -/
private theorem takeWhile_eq_iff :
    cs.takeWhile (· != sep) = a ↔ sep ∉ a ∧ (cs = a ∨ ∃ b, cs = a ++ sep :: b) := by
  constructor
  · rintro rfl
    have hsplit := List.takeWhile_append_dropWhile (p := (· != sep)) (l := cs)
    refine ⟨notMem_takeWhile, ?_⟩
    rcases dropWhile_eq_nil_or sep cs with hrest | ⟨b, hrest⟩
    · exact .inl (by simpa [hrest] using hsplit.symm)
    · exact .inr ⟨b, by rw [← hrest, hsplit]⟩
  · rintro ⟨hmem, rfl | ⟨b, rfl⟩⟩
    · exact List.takeWhile_eq_self_iff.2 (ne_of_notMem hmem)
    · simp [List.takeWhile_append_of_pos (ne_of_notMem hmem)]

/-- A text is cut at its first separator. -/
private theorem cutAt_eq_some_iff : cutAt sep cs = (a, some b) ↔ sep ∉ a ∧ cs = a ++ sep :: b := by
  constructor
  · intro h
    rcases dropWhile_eq_nil_or sep cs with hrest | ⟨rest, hrest⟩
    · simp [cutAt, hrest] at h
    · obtain ⟨rfl, rfl⟩ : cs.takeWhile (· != sep) = a ∧ rest = b := by simpa [cutAt, hrest] using h
      exact ⟨notMem_takeWhile, by rw [← hrest, List.takeWhile_append_dropWhile]⟩
  · rintro ⟨hmem, rfl⟩
    simp [cutAt, List.dropWhile_append_of_pos (ne_of_notMem hmem),
      List.takeWhile_append_of_pos (ne_of_notMem hmem)]

private theorem intercalate_append {sep : List Char} {before after : List (List Char)}
    (hbefore : before ≠ []) (hafter : after ≠ []) :
    sep.intercalate (before ++ after) = sep.intercalate before ++ sep ++ sep.intercalate after := by
  induction before with
  | nil => exact absurd rfl hbefore
  | cons part before ih =>
    rw [List.cons_append, List.intercalate_cons_of_ne_nil (by simp [hafter])]
    cases before with
    | nil => simp
    | cons next before =>
      rw [ih (List.cons_ne_nil _ _), List.intercalate_cons_cons]
      simp

/-- The parts of one text end with the parts of another exactly when the first text is the second one,
or ends with a separator and the second one. -/
private theorem splitOn_suffix_iff :
    a.splitOn sep <:+ cs.splitOn sep ↔ cs = a ∨ (sep :: a) <:+ cs := by
  constructor
  · rintro ⟨before, hsplit⟩
    have hcs : [sep].intercalate (before ++ a.splitOn sep) = cs := by
      rw [hsplit, List.intercalate_splitOn]
    cases before with
    | nil => exact .inl (by simpa [List.intercalate_splitOn] using hcs.symm)
    | cons part before =>
      rw [intercalate_append (List.cons_ne_nil _ _) (List.splitOn_ne_nil sep a),
        List.intercalate_splitOn] at hcs
      exact .inr ⟨_, by simpa using hcs⟩
  · rintro (rfl | ⟨before, rfl⟩)
    · exact List.suffix_rfl
    · rw [List.splitOn_append_cons_self]
      exact List.suffix_append _ _

end Cuts

/-! ### The annotation -/

/-- Of the entries that are listed for a key the last one stays. -/
theorem NameMap.get?_ofList_eq_some_iff {α : Type} {l : List (String × α)} {key : String} {value : α} :
    (ofList l).get? key = some value ↔
      ∃ before after, l = before ++ (key, value) :: after ∧ ∀ e ∈ after, e.1 ≠ key := by
  induction l using List.reverseRecOn with
  | nil => simp [ofList, insertAll, empty, get?, lookup]
  | append_singleton l last ih =>
    have hinsert : ofList (l ++ [last]) = (ofList l).insert last.1 last.2 := by
      simp [ofList, insertAll]
    rw [hinsert, get?_insert]
    constructor
    · intro h
      split at h
      · rename_i hkey
        obtain rfl := Option.some.inj h
        exact ⟨l, [], by rw [hkey], fun e he => absurd he List.not_mem_nil⟩
      · rename_i hkey
        obtain ⟨before, after, rfl, hafter⟩ := ih.1 h
        refine ⟨before, after ++ [last], by simp, fun e he => ?_⟩
        rcases List.mem_append.1 he with he | he
        · exact hafter e he
        · exact List.mem_singleton.1 he ▸ Ne.symm hkey
    · rintro ⟨before, after, hsplit, hafter⟩
      rcases List.eq_nil_or_concat after with rfl | ⟨after, e, rfl⟩
      · obtain ⟨rfl, hlast⟩ := List.append_inj' hsplit rfl
        obtain rfl := List.singleton_inj.1 hlast
        rw [if_pos rfl]
      · have hsplit' : l ++ [last] = (before ++ (key, value) :: after) ++ [e] := by simpa using hsplit
        obtain ⟨rfl, hlast⟩ := List.append_inj' hsplit' rfl
        obtain rfl := List.singleton_inj.1 hlast
        have hne : last.1 ≠ key := hafter last (by simp)
        rw [if_neg (Ne.symm hne), ih]
        exact ⟨before, after, rfl, fun e he => hafter e (by simp [he])⟩

namespace Labels

variable {segment : List Char} {key value : String}

/-- A segment consists of a key that is not empty, the first `=` and a value. -/
def Assigns (segment : List Char) (key value : String) : Prop :=
  key ≠ "" ∧ '=' ∉ key.toList ∧ segment = key.toList ++ '=' :: value.toList

/-- A segment has an `=`, and something in front of it. -/
def WellFormed (segment : List Char) : Prop := '=' ∈ segment ∧ segment.head? ≠ some '='

instance : DecidablePred WellFormed := fun _ => inferInstanceAs (Decidable (_ ∧ _))

theorem ofSegment?_eq_some_iff : ofSegment? segment = some (key, value) ↔ Assigns segment key value := by
  have hcut : ofSegment? segment = some (key, value) ↔
      key ≠ "" ∧ cutAt '=' segment = (key.toList, some value.toList) := by
    unfold ofSegment?
    rcases cutAt '=' segment with ⟨_ | ⟨c, before⟩, _ | after⟩
    case cons.some =>
      simp only [Option.some.injEq, Prod.mk.injEq, String.ofList_eq]
      refine ⟨fun h => ⟨fun hkey => ?_, h⟩, And.right⟩
      exact List.cons_ne_nil c before (h.1.trans (String.toList_eq_nil_iff.2 hkey))
    case nil.some =>
      refine ⟨fun h => (by cases h), fun ⟨hkey, h⟩ => absurd ?_ hkey⟩
      exact String.toList_eq_nil_iff.1 (Prod.mk.inj h).1.symm
    all_goals simp
  rw [hcut, cutAt_eq_some_iff, Assigns]

/-- The well-formed segments are those that assign a value. -/
theorem wellFormed_iff : WellFormed segment ↔ ∃ key value, Assigns segment key value := by
  constructor
  · rintro ⟨hmem, hhead⟩
    obtain ⟨before, after, rfl, hbefore⟩ := List.eq_append_cons_of_mem hmem
    refine ⟨String.ofList before, String.ofList after, fun h => ?_, by simpa using hbefore, by simp⟩
    obtain rfl : before = [] := by simpa using String.toList_eq_nil_iff.2 h
    exact hhead rfl
  · rintro ⟨key, value, hkey, hmem, rfl⟩
    refine ⟨by simp, fun hhead => hmem (List.mem_of_mem_head? ?_)⟩
    rw [List.head?_append_of_ne_nil _ fun h => hkey (String.toList_eq_nil_iff.1 h)] at hhead
    exact hhead

/-- A key has the value that the last segment that assigns to it assigns. -/
theorem get?_ofSegments_eq_some_iff {segments : List (List Char)} :
    (NameMap.ofList (segments.filterMap ofSegment?)).get? key = some value ↔
      ∃ before last after, segments = before ++ last :: after ∧ Assigns last key value ∧
        ∀ segment ∈ after, ∀ value', ¬ Assigns segment key value' := by
  rw [NameMap.get?_ofList_eq_some_iff]
  constructor
  · rintro ⟨earlier, later, hentries, hlater⟩
    obtain ⟨before, rest, rfl, -, hrest⟩ := List.filterMap_eq_append_iff.1 hentries
    obtain ⟨skipped, last, after, rfl, -, hlast, rfl⟩ := List.filterMap_eq_cons_iff.1 hrest
    refine ⟨before ++ skipped, last, after, by simp, ofSegment?_eq_some_iff.1 hlast, ?_⟩
    intro segment hmem value' hassigns
    exact hlater (key, value')
      (List.mem_filterMap.2 ⟨segment, hmem, ofSegment?_eq_some_iff.2 hassigns⟩) rfl
  · rintro ⟨before, last, after, rfl, hlast, hafter⟩
    refine ⟨before.filterMap ofSegment?, after.filterMap ofSegment?, ?_, ?_⟩
    · rw [List.filterMap_append, List.filterMap_cons_some (ofSegment?_eq_some_iff.2 hlast)]
    · rintro ⟨key', value'⟩ he rfl
      obtain ⟨segment, hmem, hassigns⟩ := List.mem_filterMap.1 he
      exact hafter segment hmem value' (ofSegment?_eq_some_iff.1 hassigns)

/-- Only the well-formed segments write labels. -/
theorem filterMap_ofSegment? (segments : List (List Char)) :
    (segments.filter fun segment => decide (WellFormed segment)).filterMap ofSegment? =
      segments.filterMap ofSegment? := by
  rw [List.filterMap_filter]
  refine List.filterMap_congr fun segment _ => ?_
  split
  · rfl
  · rename_i hill
    refine (Option.eq_none_iff_forall_ne_some.2 fun label h => hill ?_).symm
    exact decide_eq_true (wellFormed_iff.2 ⟨label.1, label.2, ofSegment?_eq_some_iff.1 h⟩)

end Labels

namespace MachineGroup

/-- The segments of the annotation of a group, none if it has no annotation. -/
def segments (group : MachineGroup) : List (List Char) :=
  (group.header.annotations.get? labelsKey).elim [] fun text => text.toList.splitOn ','

/-- The segments of the annotation that assign a value, in order. -/
def assignments (group : MachineGroup) : List (List Char) :=
  group.segments.filter fun segment => decide (Labels.WellFormed segment)

/-- The last segment that assigns to a key assigns it this value. -/
def Announces (group : MachineGroup) (key value : String) : Prop :=
  ∃ before last after, group.segments = before ++ last :: after ∧ Labels.Assigns last key value ∧
    ∀ segment ∈ after, ∀ value', ¬ Labels.Assigns segment key value'

end MachineGroup

/-! ### The policy -/

namespace Propagation

variable {p : Propagation} {key : String}

/-- The part of a key before its first slash, the whole key if it has none. -/
def IsDomain (key : String) (domain : List Char) : Prop :=
  '/' ∉ domain ∧ (key.toList = domain ∨ ∃ name, key.toList = domain ++ '/' :: name)

/-- The policy knows the key itself, or its domain, or a root with all whose parts the parts of the
domain end. -/
def Admits (p : Propagation) (key : String) : Prop :=
  p.wellKnown.contains key ∨ ∃ domain, IsDomain key domain ∧
    (p.exactDomains.contains (String.ofList domain) ∨
      ∃ root, p.subdomainRoots.contains root ∧ root.toList.splitOn '.' <:+ domain.splitOn '.')

theorem domain_eq_iff {domain : List Char} : Propagation.domain key = domain ↔ IsDomain key domain :=
  takeWhile_eq_iff

/-- A domain is under a root exactly when its parts end with all parts of the root. -/
theorem isUnder_iff {root : String} {domain : List Char} :
    isUnder root domain ↔ root.toList.splitOn '.' <:+ domain.splitOn '.' := by
  rw [splitOn_suffix_iff, isUnder, Bool.or_eq_true, beq_iff_eq, List.isSuffixOf_iff_suffix]

example : isUnder "node.cluster.x-k8s.io" "x.node.cluster.x-k8s.io".toList = true ∧
    isUnder "node.cluster.x-k8s.io" "evilnode.cluster.x-k8s.io".toList = false := by decide

theorem propagates_iff_admits : p.propagates key ↔ p.Admits key := by
  simp only [propagates, Admits, Bool.or_eq_true, List.any_eq_true, NameMap.mem_keys_iff, isUnder_iff,
    ← domain_eq_iff, exists_eq_left']

theorem get?_propagate_eq_some_iff {labels : Labels} {value : String} :
    (p.propagate labels).get? key = some value ↔ labels.get? key = some value ∧ p.Admits key := by
  rw [propagate, NameMap.get?_filter, Option.filter_eq_some_iff, propagates_iff_admits]

/-! ### The labels of the machines -/

theorem nodeLabels_eq (p : Propagation) (group : MachineGroup) :
    p.nodeLabels group = (p.propagate group.template).insertAll
      (NameMap.ofList (group.assignments.filterMap Labels.ofSegment?)).entries := by
  rw [MachineGroup.assignments, Labels.filterMap_ofSegment?]
  unfold nodeLabels MachineGroup.segments
  cases group.header.annotations.get? labelsKey with
  | none => rfl
  | some text => rfl

theorem get?_nodeLabels_eq_some_iff (p : Propagation) (group : MachineGroup) {value : String} :
    (p.nodeLabels group).get? key = some value ↔ group.Announces key value ∨
      (∀ value', ¬ group.Announces key value') ∧ group.template.get? key = some value ∧
        p.Admits key := by
  have hannounced : ∀ value, (NameMap.ofList (group.assignments.filterMap Labels.ofSegment?)).get? key =
      some value ↔ group.Announces key value := fun value => by
    rw [MachineGroup.assignments, Labels.filterMap_ofSegment?]
    exact Labels.get?_ofSegments_eq_some_iff
  rw [nodeLabels_eq, NameMap.get?_insertAll, NameMap.ofList_entries, Option.or_eq_some_iff, hannounced,
    Option.eq_none_iff_forall_ne_some, get?_propagate_eq_some_iff]
  simp only [ne_eq, hannounced]

/-- The machines of a group get a label exactly when the annotation announces it, or announces nothing
for its key and it is a template label that the policy admits. What stands in the annotation besides
assignments adds, removes and changes nothing. -/
theorem nodeLabels_determined (p : Propagation) (group : MachineGroup) :
    (∀ key value, (p.nodeLabels group).get? key = some value ↔ group.Announces key value ∨
      (∀ value', ¬ group.Announces key value') ∧ group.template.get? key = some value ∧
        p.Admits key) ∧
    ∀ other : MachineGroup, other.template = group.template → other.assignments = group.assignments →
      p.nodeLabels other = p.nodeLabels group := by
  refine ⟨fun key value => get?_nodeLabels_eq_some_iff p group, fun other htemplate hassignments => ?_⟩
  rw [nodeLabels_eq, nodeLabels_eq, htemplate, hassignments]

/-- Segments without a key or without a `=` may as well be left out. -/
theorem nodeLabels_of_malformed_segments :
    standard.nodeLabels { MachineGroup.new "capi" "md-1" none with
      header := (Header.new "capi" "md-1").annotate labelsKey "size=big,,=v,zone,size=a=b" } =
    standard.nodeLabels { MachineGroup.new "capi" "md-1" none with
      header := (Header.new "capi" "md-1").annotate labelsKey "size=big,size=a=b" } :=
  (nodeLabels_determined standard _).2 _ rfl (by decide)

end Propagation
end MachineClaims
