import MachineClaims.Command.Apply
import MachineClaims.Proofs.Legible
import Mathlib.Data.List.Induction

/-!
# Manifests on top of a store

An object of a manifest gets the version after the stored one, whatever version it came with
(`Store.upsert`). So of the objects with one key the last one stays, and its version counts all of them
(`Store.get?_upsertAll`). Tables of different kinds do not meet, so the same holds of a whole manifest
(`Manifest.get?_onto`). Reading a stored claim that is to be replaced is all that can fail
(`Store.Legible`). The main statement is `manifest_upserted`.
-/

namespace MachineClaims

namespace Store

variable {s s' : Store} {k : Kind} {o : k.Object} {key : String}

/-- The version of what lies under a key, zero if nothing does. -/
def versionAt (s : Store) (k : Kind) (key : String) : Nat := (s.version? k key).getD 0

/-! ### One object -/

/-- Stores an object with the version after the one that lies under its key. -/
def upsert (s : Store) (k : Kind) (o : k.Object) : Store :=
  s.put k (k.withVersion o (s.versionAt k (k.key o) + 1))

theorem get?_upsert (s : Store) (k : Kind) (o : k.Object) (key : String) :
    ((s.upsert k o).table k).get? key =
      if k.key o = key then some (k.withVersion o (s.versionAt k key + 1))
      else (s.table k).get? key := by
  rw [upsert, get?_table_put, Kind.key_withVersion]
  by_cases h : key = k.key o
  · simp [h]
  · simp [h, Ne.symm h]

theorem versionAt_upsert (s : Store) (k : Kind) (o : k.Object) (key : String) :
    (s.upsert k o).versionAt k key = s.versionAt k key + if k.key o = key then 1 else 0 := by
  rw [versionAt, version?, get?_upsert]
  split
  · simp
  · rfl

theorem legible_upsert (settled : k.reread o = .ok o) (h : s.Legible k (k.key o)) :
    (s.upsert k o).Legible k key ↔ s.Legible k key := by
  by_cases hkey : k.key o = key
  · subst hkey
    have hnew : (s.upsert k o).Legible k (k.key o) := by
      intro stored hstored
      rw [get?_upsert, if_pos rfl] at hstored
      obtain rfl := Option.some.inj hstored
      exact ⟨_, Kind.reread_withHeader settled _⟩
    exact iff_of_true hnew h
  · unfold Legible
    rw [get?_upsert, if_neg hkey]

/-! ### Objects of a kind -/

/-- Stores objects one after the other. -/
def upsertAll (s : Store) (k : Kind) (l : List k.Object) : Store := l.foldl (·.upsert k ·) s

theorem upsertAll_concat (s : Store) (k : Kind) (l : List k.Object) (o : k.Object) :
    s.upsertAll k (l ++ [o]) = (s.upsertAll k l).upsert k o := by
  simp [upsertAll, List.foldl_append]

/-- Every object adds one to the version of its key. -/
theorem versionAt_upsertAll (s : Store) (k : Kind) (l : List k.Object) (key : String) :
    (s.upsertAll k l).versionAt k key =
      s.versionAt k key + (l.filter fun o => k.key o = key).length := by
  induction l using List.reverseRecOn with
  | nil => rfl
  | append_singleton l o ih =>
    rw [upsertAll_concat, versionAt_upsert, ih, List.filter_append, List.length_append]
    by_cases h : k.key o = key
    · simp [h, Nat.add_assoc]
    · simp [h]

/-- The last object of each key stays. -/
theorem get?_upsertAll (s : Store) (k : Kind) (l : List k.Object) (key : String) :
    ((s.upsertAll k l).table k).get? key = match (l.filter fun o => k.key o = key).getLast? with
      | none => (s.table k).get? key
      | some o => some (k.withVersion o
          (s.versionAt k key + (l.filter fun o => k.key o = key).length)) := by
  induction l using List.reverseRecOn with
  | nil => rfl
  | append_singleton l o ih =>
    rw [upsertAll_concat, get?_upsert, versionAt_upsertAll, List.filter_append]
    by_cases h : k.key o = key
    · simp [h, Nat.add_assoc]
    · simp only [h, if_false, ih]
      simp [h]

theorem legible_upsertAll {l : List k.Object} (settled : ∀ o ∈ l, k.reread o = .ok o)
    (h : ∀ o ∈ l, s.Legible k (k.key o)) :
    (s.upsertAll k l).Legible k key ↔ s.Legible k key := by
  induction l generalizing s with
  | nil => rfl
  | cons o l ih =>
    rw [List.forall_mem_cons] at settled h
    have hstep {key : String} : (s.upsert k o).Legible k key ↔ s.Legible k key :=
      legible_upsert settled.1 h.1
    exact (ih settled.2 fun o' ho' => hstep.2 (h.2 o' ho')).trans hstep

/-- The other tables are left as they are. -/
theorem table_upsertAll_of_ne {k' : Kind} (h : k' ≠ k) (l : List k.Object) :
    (s.upsertAll k l).table k' = s.table k' := by
  induction l using List.reverseRecOn with
  | nil => rfl
  | append_singleton l o ih => rw [upsertAll_concat, upsert, table_put_of_ne _ _ h, ih]

theorem table_upsertAll_congr (h : s'.table k = s.table k) (l : List k.Object) :
    (s'.upsertAll k l).table k = (s.upsertAll k l).table k := by
  apply NameMap.ext_get?
  intro key
  have hversion : s'.versionAt k key = s.versionAt k key := by rw [versionAt, version?, h]; rfl
  rw [get?_upsertAll, get?_upsertAll, h, hversion]

end Store

namespace Manifest

variable {m : Manifest} {s : Store} {k : Kind} {o : k.Object} {clock : Nat}

/-- The objects of a kind in the order in which the manifest lists them. -/
def objects (m : Manifest) : (k : Kind) → List k.Object
  | .group => m.groups
  | .machine => m.machines
  | .claim => m.claims
  | .capacityClass => m.classes

/-- The objects of a kind with a key. -/
def named (m : Manifest) (k : Kind) (key : String) : List k.Object :=
  (m.objects k).filter fun o => k.key o = key

/-- What the claims of a manifest come on top of: a store with the other objects on top. -/
def foundation (m : Manifest) (s : Store) : Store :=
  ((s.upsertAll .capacityClass m.classes).upsertAll .group m.groups).upsertAll .machine m.machines

/-- A store with the objects of a manifest on top. -/
def onto (m : Manifest) (s : Store) : Store := (m.foundation s).upsertAll .claim m.claims

theorem table_claim_foundation (m : Manifest) (s : Store) :
    (m.foundation s).table .claim = s.table .claim := by
  simp (disch := decide) only [foundation, Store.table_upsertAll_of_ne]

/-- Every table is changed by the objects of its kind only. -/
theorem table_onto (m : Manifest) (s : Store) (k : Kind) :
    (m.onto s).table k = (s.upsertAll k (m.objects k)).table k := by
  cases k with
  | claim => exact Store.table_upsertAll_congr (m.table_claim_foundation s) _
  | capacityClass =>
    simp (disch := decide) only [onto, foundation, objects, Store.table_upsertAll_of_ne]
  | group =>
    simp (disch := decide) only [onto, foundation, objects, Store.table_upsertAll_of_ne]
    apply Store.table_upsertAll_congr
    simp (disch := decide) only [Store.table_upsertAll_of_ne]
  | machine =>
    simp (disch := decide) only [onto, foundation, objects, Store.table_upsertAll_of_ne]
    apply Store.table_upsertAll_congr
    simp (disch := decide) only [Store.table_upsertAll_of_ne]

theorem get?_onto (m : Manifest) (s : Store) (k : Kind) (key : String) :
    ((m.onto s).table k).get? key = match (m.named k key).getLast? with
      | none => (s.table k).get? key
      | some o => some (k.withVersion o (s.versionAt k key + (m.named k key).length)) := by
  rw [table_onto, Store.get?_upsertAll]
  rfl

theorem versionAt_onto (m : Manifest) (s : Store) (k : Kind) (key : String) :
    (m.onto s).versionAt k key = s.versionAt k key + (m.named k key).length := by
  rw [Store.versionAt, Store.version?, table_onto]
  exact Store.versionAt_upsertAll s k (m.objects k) key

/-- The second time a manifest only adds to the versions. -/
theorem get?_onto_onto (m : Manifest) (s : Store) (k : Kind) (key : String) :
    ((m.onto (m.onto s)).table k).get? key = (((m.onto s).table k).get? key).map fun o =>
      k.withVersion o ((k.header o).version + (m.named k key).length) := by
  rw [get?_onto m (m.onto s), versionAt_onto, get?_onto m s]
  cases hlast : (m.named k key).getLast? with
  | none =>
    have hnone : m.named k key = [] := List.getLast?_eq_none_iff.1 hlast
    simp [hnone]
  | some o => simp

/-! ### Storing as it is done -/

/-- The stored version is taken over, so that neither the creation nor the update is refused. -/
theorem alone_upsert (h : s.Legible k (k.key o)) :
    (upsert k o).alone clock s = (.ok (), s.upsert k o) := by
  unfold upsert
  refine (Command.Run.alone_bind_ok (Command.Run.alone_lift ..) _).trans ?_
  rcases Store.lookup_of_legible h with ⟨hversion, hlookup⟩ | ⟨stored, hversion, hlookup⟩
  · have hcreate : (Store.Operation.create k o).perform s =
        (.ok (k.withVersion o 1), s.upsert k o) := by
      have hnone : (s.table k).get? (k.key o) = none := Option.map_eq_none_iff.1 hversion
      simp [Store.Operation.perform, Store.create_eq, hnone, Store.Operation.settle, Store.upsert,
        Store.versionAt, hversion]
    simp only [Store.Operation.perform, Store.get_header, hlookup]
    exact Command.Run.alone_bind_ok (Command.Run.alone_request_ok hcreate _) _
  · have haccepts : s.Accepts k (k.withVersion o (k.header stored).version) :=
      ⟨stored, by rw [Kind.key_withVersion, hlookup], by rw [Kind.version_withVersion]⟩
    have hupdate : (Store.Operation.update k (k.withVersion o (k.header stored).version)).perform s =
        (.ok (k.withVersion o ((k.header stored).version + 1)), s.upsert k o) := by
      simp [Store.Operation.perform, Store.update_of_accepts haccepts, Store.Operation.settle,
        Store.upsert, Store.versionAt, hversion, Kind.bump]
    simp only [Store.Operation.perform, Store.get_header, hlookup]
    exact Command.Run.alone_bind_ok (Command.Run.alone_request_ok hupdate _) _

theorem alone_upsert_fails (h : ¬ s.Legible k (k.key o)) :
    ∃ e, (upsert k o).alone clock s = (.error e, s) := by
  obtain ⟨text, hlookup⟩ := Store.lookup_of_not_legible h
  refine ⟨.store (.fault .decoding text), ?_⟩
  unfold upsert
  refine (Command.Run.alone_bind_ok (Command.Run.alone_lift ..) _).trans ?_
  simp only [Store.Operation.perform, Store.get_header, hlookup]
  exact Command.Run.alone_throw ..

theorem alone_upsertAll {l : List k.Object} (settled : ∀ o ∈ l, k.reread o = .ok o)
    (h : ∀ o ∈ l, s.Legible k (k.key o)) :
    (upsertAll k l).alone clock s = (.ok (), s.upsertAll k l) := by
  induction l generalizing s with
  | nil => rfl
  | cons o l ih =>
    rw [List.forall_mem_cons] at settled h
    have hrest : ∀ o' ∈ l, (s.upsert k o).Legible k (k.key o') := fun o' ho' =>
      (Store.legible_upsert settled.1 h.1).2 (h.2 o' ho')
    exact (Command.Run.alone_bind_ok (alone_upsert h.1) _).trans (ih settled.2 hrest)

theorem alone_upsertAll_fails {l : List k.Object} (settled : ∀ o ∈ l, k.reread o = .ok o)
    (h : ¬ ∀ o ∈ l, s.Legible k (k.key o)) :
    ∃ e s', (upsertAll k l).alone clock s = (.error e, s') := by
  induction l generalizing s with
  | nil => exact absurd (fun _ ho => absurd ho List.not_mem_nil) h
  | cons o l ih =>
    rw [List.forall_mem_cons] at settled h
    by_cases hfirst : s.Legible k (k.key o)
    · have hrest : ¬ ∀ o' ∈ l, (s.upsert k o).Legible k (k.key o') := fun hall =>
        h ⟨hfirst, fun o' ho' => (Store.legible_upsert settled.1 hfirst).1 (hall o' ho')⟩
      obtain ⟨e, s', hfails⟩ := ih settled.2 hrest
      exact ⟨e, s', (Command.Run.alone_bind_ok (alone_upsert hfirst) _).trans hfails⟩
    · obtain ⟨e, hfails⟩ := alone_upsert_fails hfirst
      exact ⟨e, s, Command.Run.alone_bind_error hfails _⟩

/-- Classes, groups and machines are always stored, and what lies under the keys of the claims has not
changed by then. -/
theorem alone_apply_eq (m : Manifest) (clock : Nat) (s : Store) :
    m.apply.alone clock s = (upsertAll .claim m.claims).alone clock (m.foundation s) := by
  have hstored : ∀ {k : Kind}, k ≠ .claim → ∀ (l : List k.Object) (s : Store),
      (upsertAll k l).alone clock s = (.ok (), s.upsertAll k l) := fun hk _ _ =>
    alone_upsertAll (fun o _ => Kind.reread_of_ne_claim hk o) fun _ _ =>
      Store.legible_of_ne_claim hk
  unfold apply
  rw [Command.Run.alone_bind_ok (hstored (by decide) _ _),
    Command.Run.alone_bind_ok (hstored (by decide) _ _),
    Command.Run.alone_bind_ok (hstored (by decide) _ _)]
  rfl

section

variable (settled : ∀ c ∈ m.claims, Kind.claim.reread c = .ok c)
include settled

theorem legible_onto {key : String} (h : ∀ c ∈ m.claims, s.Legible .claim c.header.key) :
    (m.onto s).Legible .claim key ↔ s.Legible .claim key :=
  (Store.Legible.congr (m.table_onto s .claim)).trans (Store.legible_upsertAll settled h)

theorem alone_apply (h : ∀ c ∈ m.claims, s.Legible .claim c.header.key) :
    m.apply.alone clock s = (.ok (), m.onto s) := by
  rw [alone_apply_eq]
  exact alone_upsertAll settled fun c hc =>
    (Store.Legible.congr (m.table_claim_foundation s)).2 (h c hc)

theorem alone_apply_fails (h : ¬ ∀ c ∈ m.claims, s.Legible .claim c.header.key) :
    ∃ e s', m.apply.alone clock s = (.error e, s') := by
  rw [alone_apply_eq]
  exact alone_upsertAll_fails settled fun hall => h fun c hc =>
    (Store.Legible.congr (m.table_claim_foundation s)).1 (hall c hc)

end

end Manifest

/-- Storing the objects of a manifest that was read, whatever versions they carry, fails just if a stored
claim that is to be replaced cannot be read. Once it is done, the last object of each kind and key lies
under its key, its version being the old one, or zero, and one more for each object of this kind and key;
everything else is as it was. So storing them once more only adds to these versions. -/
theorem manifest_upserted (clock : Nat) {j : Json} {m : Manifest} (parsed : Manifest.decode j = some m)
    (s : Store) :
    ((m.apply.alone clock s).1 = .ok () ↔ ∀ c ∈ m.claims, s.Legible .claim c.header.key) ∧
    ∀ s', m.apply.alone clock s = (.ok (), s') →
      (∀ k key, (s'.table k).get? key = match (m.named k key).getLast? with
        | none => (s.table k).get? key
        | some o => some (k.withVersion o (s.versionAt k key + (m.named k key).length))) ∧
      ∃ s'', m.apply.alone clock s' = (.ok (), s'') ∧
        ∀ k key, (s''.table k).get? key = ((s'.table k).get? key).map fun o =>
          k.withVersion o ((k.header o).version + (m.named k key).length) := by
  have settled : ∀ c ∈ m.claims, Kind.claim.reread c = .ok c := fun c hc =>
    Claim.reread_of_settled (Manifest.yields_decode j m parsed c hc)
  have hsucceeds : (m.apply.alone clock s).1 = .ok () ↔
      ∀ c ∈ m.claims, s.Legible .claim c.header.key := by
    constructor
    · intro hok
      by_contra h
      obtain ⟨e, s', hfails⟩ : ∃ e s', m.apply.alone clock s = (.error e, s') :=
        Manifest.alone_apply_fails settled h
      rw [hfails] at hok
      cases hok
    · intro h
      rw [Manifest.alone_apply settled h]
  refine ⟨hsucceeds, fun s' hs' => ?_⟩
  have h := hsucceeds.1 (congrArg Prod.fst hs')
  obtain rfl : m.onto s = s' := congrArg Prod.snd ((Manifest.alone_apply settled h).symm.trans hs')
  have hagain : ∀ c ∈ m.claims, (m.onto s).Legible .claim c.header.key := fun c hc =>
    (Manifest.legible_onto settled h).2 (h c hc)
  exact ⟨m.get?_onto s, _, Manifest.alone_apply settled hagain, m.get?_onto_onto s⟩

/-- A manifest that lists a group twice, once with a version, and a claim. -/
def Manifest.resizing : Json :=
  .obj [
    ("groups", .arr [
      .obj [("meta", .obj [("name", .str "md"), ("resource_version", .number "7")]),
        ("replicas", .number "2")],
      .obj [("meta", .obj [("name", .str "md")]), ("replicas", .number "4")]]),
    ("claims", .arr [.obj [("meta", .obj [("name", .str "c")])]])]

/-- A store with this group at version three, and with the claim. -/
def Store.grouped : Store :=
  ((∅ : Store).put .group (Kind.group.withVersion (.new "" "md" none) 3)).put .claim
    (Kind.claim.withVersion (.new "c" (some "small")) 1)

theorem manifest_upserted_over_group :
    ∃ m s' s'', Manifest.decode Manifest.resizing = some m ∧
      m.apply.alone 0 .grouped = (.ok (), s') ∧
      s'.groups.get? "/md" = some (Kind.group.withVersion (.new "" "md" (some 4)) 5) ∧
      s'.claims.get? "/c" = some (Kind.claim.withVersion (.new "c" none) 2) ∧
      m.apply.alone 0 s' = (.ok (), s'') ∧
      s''.groups.get? "/md" = some (Kind.group.withVersion (.new "" "md" (some 4)) 7) := by
  have parsed : Manifest.decode Manifest.resizing = some ⟨[Kind.group.withVersion (.new "" "md" (some 2)) 7,
      .new "" "md" (some 4)], [], [], [.new "c" none]⟩ := rfl
  have hlegible : ∀ c ∈ [Claim.new "c" none], Store.grouped.Legible .claim c.header.key := by
    intro c hc stored hstored
    obtain rfl := List.mem_singleton.1 hc
    obtain rfl : Kind.claim.withVersion (.new "c" (some "small")) 1 = stored := Option.some.inj hstored
    exact ⟨_, rfl⟩
  obtain ⟨hsucceeds, hstored⟩ := manifest_upserted 0 parsed .grouped
  have hok := hsucceeds.2 hlegible
  obtain ⟨hentries, s'', hagain, hversions⟩ := hstored _ (Prod.ext hok rfl)
  have hgroup := (hentries .group "/md").trans rfl
  have hgroup' := hversions .group "/md"
  rw [hgroup] at hgroup'
  exact ⟨_, _, s'', parsed, Prod.ext hok rfl, hgroup, (hentries .claim "/c").trans rfl, hagain, hgroup'⟩

/-- A manifest with a claim. -/
def Manifest.replacing : Json :=
  .obj [("claims", .arr [.obj [("meta", .obj [("name", .str "web")])]])]

/-- A claim with a computed amount has been created under the same name. It cannot be read, so the one of
the manifest does not replace it. -/
theorem apply_fails_over_computed_amount :
    ∃ m e s', Manifest.decode Manifest.replacing = some m ∧
      ((Store.Operation.create .claim .oversized).perform ∅).1 =
        .ok (Kind.claim.withVersion .oversized 1) ∧
      m.apply.alone 0 ((Store.Operation.create .claim .oversized).perform ∅).2 = (.error e, s') := by
  have parsed : Manifest.decode Manifest.replacing = some ⟨[], [], [], [.new "web" none]⟩ := rfl
  have settled : ∀ c ∈ [Claim.new "web" none], Kind.claim.reread c = .ok c := fun c hc =>
    List.mem_singleton.1 hc ▸ rfl
  have hunread : ¬ ((Store.Operation.create .claim .oversized).perform ∅).2.Legible .claim "/web" :=
    Store.not_legible_of_oversized rfl
  obtain ⟨e, s', hfails⟩ : ∃ e s', (⟨[], [], [], [.new "web" none]⟩ : Manifest).apply.alone 0
      ((Store.Operation.create .claim .oversized).perform ∅).2 = (.error e, s') :=
    Manifest.alone_apply_fails settled fun hall => hunread (hall _ List.mem_cons_self)
  exact ⟨_, e, s', parsed, rfl, hfails⟩

end MachineClaims
