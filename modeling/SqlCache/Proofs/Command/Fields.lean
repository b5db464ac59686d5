import SqlCache.Command
import SqlCache.Proofs.Backend.Faltering
import SqlCache.Proofs.Database.Alone
import SqlCache.Proofs.Dialogue.Transcript
import SqlCache.Proofs.Store.Fields

/-!
Writing fields of a map. The arguments stand for pairs of a field and a value, which are written one
after the other; the map under the key is then the old one overridden by them from left to right
(`Overrides`). Main result: `hset_writes_all_or_none`, for stores that can fail at any point.
-/

set_option autoImplicit false

namespace SqlCache

open Std

/-! ## The map under a key -/

namespace Store

variable {s t : Store} {key : String}

/-- The map under a key. -/
def mapOf (s : Store) (key : String) : ExtTreeMap String String :=
  ExtTreeMap.ofList ((s.fieldsOf key).map fun e => (e.field, e.value))

theorem getElem?_mapOf (s : Store) (key field : String) :
    (s.mapOf key)[field]? = s.field? key field := by
  have hdistinct : ((s.fieldsOf key).map fun e => (e.field, e.value)).Pairwise
      fun a b => ¬compare a.1 b.1 = .eq := by
    rw [List.pairwise_map]
    refine (pairwise_fieldsOf s key).imp fun {a b} hlt => ?_
    rw [compare_lt_iff_lt.mpr hlt]
    decide
  cases hvalue : s.field? key field with
  | some value =>
      refine ExtTreeMap.getElem?_ofList_of_mem compare_self hdistinct ?_
      exact List.mem_map.mpr ⟨⟨key, field, value⟩, mem_fieldsOf.mpr ⟨rfl, hvalue⟩, rfl⟩
  | none =>
      refine ExtTreeMap.getElem?_ofList_of_contains_eq_false ?_
      rw [List.map_map, Bool.eq_false_iff, ne_eq, List.contains_iff_mem, List.mem_map]
      rintro ⟨e, he, rfl⟩
      have hfound := (mem_fieldsOf.mp he).2
      rw [Function.comp_apply] at hvalue
      rw [hvalue] at hfound
      cases hfound

/-- A map is listed as its fields are, in their order. -/
theorem toList_mapOf (s : Store) (key : String) :
    (s.mapOf key).toList = (s.fieldsOf key).map fun e => (e.field, e.value) := by
  have : Std.Irrefl fun a b : String × String => a.1 < b.1 := ⟨fun a => String.lt_irrefl a.1⟩
  have hlisted : ((s.mapOf key).toList).Pairwise fun a b => a.1 < b.1 :=
    ExtTreeMap.ordered_keys_toList.imp fun hlt => compare_lt_iff_lt.mp hlt
  have hfields : ((s.fieldsOf key).map fun e => (e.field, e.value)).Pairwise
      fun a b => a.1 < b.1 := List.pairwise_map.mpr (pairwise_fieldsOf s key)
  refine hlisted.eq_of_mem_iff hfields fun p => ?_
  obtain ⟨field, value⟩ := p
  rw [ExtTreeMap.mem_toList_iff_getElem?_eq_some, getElem?_mapOf, List.mem_map]
  constructor
  · intro hvalue
    exact ⟨⟨key, field, value⟩, mem_fieldsOf.mpr ⟨rfl, hvalue⟩, rfl⟩
  · rintro ⟨e, he, heq⟩
    cases heq
    exact (mem_fieldsOf.mp he).2

theorem mapOf_setField (s : Store) (ms : Int) (key field value : String) :
    (s.setField ms key field value).mapOf key = (s.mapOf key).insert field value := by
  refine ExtTreeMap.ext_getElem? fun other => ?_
  rw [getElem?_mapOf, field?_setField, ExtTreeMap.getElem?_insert, getElem?_mapOf]
  simp only [Prod.mk.injEq, true_and, LawfulEqCmp.compare_eq_iff_eq]

end Store

namespace Command

variable {key : String}

/-- What tables become when pairs are written to the map under a key: this map is overridden by them
from left to right, and every other row is as it was. -/
structure Overrides (key : String) (pairs : List (String × String)) (before after : Store) :
    Prop where
  map : after.mapOf key = (before.mapOf key).insertMany pairs
  others : ∀ place : String × String, (∀ p ∈ pairs, place ≠ (key, p.1)) →
    after.fields[place]? = before.fields[place]?
  rest : after = { before with fields := after.fields }

namespace Overrides

variable {pairs : List (String × String)} {before after : Store}

theorem nil (s : Store) : Overrides key [] s s where
  map := ExtTreeMap.insertMany_nil.symm
  others _ _ := rfl
  rest := rfl

/-- One pair and then all others. -/
theorem cons {ms : Int} {field value : String}
    (h : Overrides key pairs (before.setField ms key field value) after) :
    Overrides key ((field, value) :: pairs) before after where
  map := by rw [h.map, Store.mapOf_setField, ExtTreeMap.insertMany_cons]
  others place hplace := by
    have hfirst : (key, field) ≠ place :=
      fun heq => hplace (field, value) List.mem_cons_self heq.symm
    rw [h.others place fun p hp => hplace p (List.mem_cons_of_mem _ hp), Store.setField,
      ExtTreeMap.getElem?_insert, if_neg]
    rwa [LawfulEqCmp.compare_eq_iff_eq]
  rest := h.rest

end Overrides

/-! ## Pairs -/

/-- An even number of arguments is a list of pairs. -/
theorem flatMap_pairs {values : List String} (h : values.length % 2 = 0) :
    (Page.pairs values).flatMap (fun p => [p.1, p.2]) = values := by
  induction values using Page.pairs.induct with
  | case1 field value rest ih =>
      have hrest : rest.length % 2 = 0 := by
        simp only [List.length_cons] at h
        omega
      rw [Page.pairs, List.flatMap_cons, ih hrest]
      rfl
  | case2 values hshort =>
      cases values with
      | nil => rfl
      | cons field rest =>
          cases rest with
          | nil => simp at h
          | cons value rest => exact absurd rfl (hshort field value rest)

/-- The arguments say which pairs they stand for. -/
theorem pairs_flatMap (pairs : List (String × String)) :
    Page.pairs (pairs.flatMap fun p => [p.1, p.2]) = pairs := by
  induction pairs with
  | nil => rfl
  | cons p pairs ih => exact congrArg (List.cons p) ih

theorem length_flatMap_pairs (pairs : List (String × String)) :
    (pairs.flatMap fun p => [p.1, p.2]).length = 2 * pairs.length := by
  induction pairs with
  | nil => rfl
  | cons p pairs ih =>
      rw [List.flatMap_cons, List.length_append, ih, List.length_cons, List.length_cons,
        List.length_cons, List.length_nil]
      omega

theorem fieldPairs_of_paired {values : List String}
    (h : ¬(values.length < 2 ∨ values.length % 2 ≠ 0)) :
    fieldPairs values = .ok (Page.pairs values) := if_neg h

/-! ## Writing one pair after the other -/

section Writing

variable {τ : Type} {b : Backend τ} {view : τ → Database} {t : τ} {d : Database}
variable {given : Instant} {c : Connection}

/-- Pairs that have all been written override the map of the draft. -/
theorem overrides_of_run_setFields (falters : Falters b view) {pairs : List (String × String)}
    {draft draft' : Draft} (hview : view t = { d with draft := some draft })
    (hok : ((setFields key pairs).run.run (b.within given c) t).1 = .ok ())
    (hafter : view ((setFields key pairs).run.run (b.within given c) t).2 =
      { d with draft := some draft' }) :
    Overrides key pairs draft.store draft'.store := by
  induction pairs generalizing t draft with
  | nil =>
      have hsame : draft' = draft := by
        have h := congrArg Database.draft (hafter.symm.trans hview)
        exact Option.some.inj h
      rw [hsame]
      exact .nil draft.store
  | cons p pairs ih =>
      obtain ⟨field, value⟩ := p
      have hcall : (Body.call (.setField key field value)).run.run (b.within given c) t =
          b.within given c (.setField key field value) t := rfl
      rw [setFields, Dialogue.run_program_bind, hcall] at hok hafter
      have hcases := falters.within_cases given c (.setField key field value) hview
      revert hok hafter hcases
      rcases b.within given c (.setField key field value) t with ⟨r, t₁⟩
      rintro hok hafter (⟨⟨e, herror⟩, -⟩ | ⟨now, touched, hreply, hwritten⟩)
      · cases herror
        cases hok
      · cases hreply
        exact (ih hwritten hok hafter).cons

/-- Apart from the database there is no map that a pair could be written to. -/
theorem eq_nil_of_run_setFields_apart (falters : Falters b view) (apart : (view t).Apart)
    {pairs : List (String × String)}
    (hok : ((setFields key pairs).run.run (b.within given c) t).1 = .ok ()) : pairs = [] := by
  cases pairs with
  | nil => rfl
  | cons p pairs =>
      obtain ⟨field, value⟩ := p
      have hcall : (Body.call (.setField key field value)).run.run (b.within given c) t =
          b.within given c (.setField key field value) t := rfl
      rw [setFields, Dialogue.run_program_bind, hcall] at hok
      have hcases := falters.within given c (.setField key field value) t
      revert hok hcases
      rcases b.within given c (.setField key field value) t with ⟨r, t₁⟩
      rintro hok (⟨⟨e, herror⟩, -⟩ | ⟨now, happly⟩)
      · cases herror
        cases hok
      · rw [apart.applyInside_eq] at happly
        obtain rfl := congrArg Prod.fst happly
        cases hok

/-- A body that answers how many pairs there are has written them all. -/
theorem of_run_setFields_return {σ : Type} {handle : (op : Operation) → σ → op.Reply × σ} {s : σ}
    {pairs : List (String × String)} {n : Int}
    (hok : ((do setFields key pairs; return (pairs.length : Int) : Body Int).run.run handle s).1 =
      .ok n) :
    n = pairs.length ∧ ((setFields key pairs).run.run handle s).1 = .ok () ∧
      ((do setFields key pairs; return (pairs.length : Int) : Body Int).run.run handle s).2 =
        ((setFields key pairs).run.run handle s).2 := by
  rw [Dialogue.run_program_bind] at hok ⊢
  revert hok
  rcases (setFields key pairs).run.run handle s with ⟨r, s'⟩
  cases r with
  | error e =>
      intro hok
      cases hok
  | ok u => exact fun hok => ⟨(Except.ok.inj hok).symm, rfl, rfl⟩

/-- A transaction that writes pairs fails and leaves everything as it was, or it has begun when no
other one was open, and the committed map is overridden by its pairs. -/
theorem transaction_setFields_cases (falters : Falters b view) (given : Instant) (key : String)
    (pairs : List (String × String)) (t : τ) :
    let outcome := b.transaction given
      (do setFields key pairs; return (pairs.length : Int)) t
    ((∃ e, outcome.1 = .error e) ∧ view outcome.2 = view t) ∨
    (outcome.1 = .ok (pairs.length : Int) ∧ (view t).draft = none ∧
      ∃ s, view outcome.2 = { view t with committed := s } ∧
        Overrides key pairs (view t).committed s) := by
  intro outcome
  rcases falters.transaction_cases given
      (do setFields key pairs; return (pairs.length : Int)) t with
    hfails | ⟨n, c, t₁, draft, hidle, hbegun, hran, hdraft, hdone, hafter⟩ |
      ⟨n, c, t₁, apart, hbegun, hran, hdone, hafter⟩
  · exact Or.inl hfails
  · obtain ⟨hn, hwrote, hsame⟩ := of_run_setFields_return hran
    rw [hsame] at hdraft
    rw [hn] at hdone
    exact Or.inr ⟨hdone, hidle, draft.store, hafter,
      overrides_of_run_setFields falters hbegun hwrote hdraft⟩
  · obtain ⟨hn, hwrote, -⟩ := of_run_setFields_return hran
    rw [hn] at hdone
    obtain rfl := eq_nil_of_run_setFields_apart falters (hbegun ▸ apart) hwrote
    exact Or.inr ⟨hdone, apart.idle, (view t).committed, hafter, .nil _⟩

/-- On tables that nobody else works on, pairs are written. -/
theorem run_setFields_attend (key : String) (pairs : List (String × String))
    (s : Store × (Nat → Instant)) :
    ((setFields key pairs).run.run Store.attend s).1 = .ok () := by
  induction pairs generalizing s with
  | nil => rfl
  | cons p pairs ih => exact ih _

/-- What a call has to write is known when its arguments pair up. -/
theorem plan_hset {values : List String} (h : ¬(values.length < 2 ∨ values.length % 2 ≠ 0)) :
    plan (.hset key values) =
      .atomic
        (do setFields key (Page.pairs values); return ((Page.pairs values).length : Int)) := by
  simp only [plan, fieldPairs_of_paired h]

/-- A call without arguments, or with an odd number of them, is refused before anything is asked. -/
theorem perform_hset_unpaired {values : List String}
    (h : values.length < 2 ∨ values.length % 2 ≠ 0) (now : Instant) (t : τ) :
    b.perform now (plan (.hset key values)) t =
      (.error (.validation (.unpairedFields values.length)), t) := by
  have hpairs : fieldPairs values = .error (.validation (.unpairedFields values.length)) :=
    if_pos h
  simp only [plan, hpairs]
  rfl

/-- Where nothing fails and nobody else writes, a call whose arguments pair up succeeds. -/
theorem perform_hset_alone (hidle : d.draft = none) (hshared : d.sharing ≠ .nothing)
    (hwritable : d.isReadOnly = false) {values : List String}
    (h : ¬(values.length < 2 ∨ values.length % 2 ≠ 0)) (now : Instant) :
    (Database.backend.perform now (plan (.hset key values)) d).1 =
      .ok ((Page.pairs values).length : Int) := by
  rw [plan_hset h]
  show (Database.backend.transaction now _ d).1 = _
  rw [Database.transaction_alone hidle hshared hwritable, Dialogue.run_program_bind]
  have hran := run_setFields_attend key (Page.pairs values) (d.committed, fun _ => now)
  revert hran
  rcases (setFields key (Page.pairs values)).run.run Store.attend (d.committed, fun _ => now)
    with ⟨r, s⟩
  rintro rfl
  rfl

end Writing

/-! ## Reading the map -/

section Reading

variable {d : Database} {now : Instant} {map : ExtTreeMap String String}

/-- A map that is not empty is answered as a whole. -/
theorem perform_hgetAll (hidle : d.draft = none) (hmap : d.committed.mapOf key = map)
    {field : String} (hfield : field ∈ map) :
    Database.backend.perform now (plan (.hgetAll key)) d = (.ok map.toList, d) := by
  have hlist : (d.committed.fieldsOf key).map (fun e => (e.field, e.value)) = map.toList := by
    rw [← hmap, Store.toList_mapOf]
  have happly := Database.apply_of_reading hidle (rfl : (Operation.getFields key).refusal? = none)
    rfl now
  show ((d.apply now (.getFields key)).1.bind Except.ok, (d.apply now (.getFields key)).2) = _
  rw [happly]
  simp only [Store.apply]
  cases hfields : d.committed.fieldsOf key with
  | nil =>
      rw [hfields] at hlist
      have hsome := ExtTreeMap.mem_iff_isSome_getElem?.mp hfield
      obtain ⟨value, hvalue⟩ := Option.isSome_iff_exists.mp hsome
      have hmem := ExtTreeMap.mem_toList_iff_getElem?_eq_some.mpr hvalue
      rw [← hlist] at hmem
      cases hmem
  | cons e rest =>
      rw [hfields] at hlist
      rw [← hlist]
      rfl

theorem operate_getField (hidle : d.draft = none) (hmap : d.committed.mapOf key = map)
    (field : String) :
    Database.backend.operate now (.getField key field) d =
      (match map[field]? with
        | some value => .ok value
        | none => .error .notFound, d) := by
  rw [← hmap, Store.getElem?_mapOf]
  exact Database.apply_of_reading hidle (rfl : (Operation.getField key field).refusal? = none)
    rfl now

/-- A map that some pairs have overridden can be read as a whole and by field. -/
theorem reads_of_insertMany (hidle : d.draft = none) {pairs : List (String × String)}
    (hmap : d.committed.mapOf key = map.insertMany pairs) (hsome : 0 < pairs.length)
    (later : Instant) :
    Database.backend.perform later (plan (.hgetAll key)) d =
      (.ok (map.insertMany pairs).toList, d) ∧
    ∀ field, Database.backend.operate later (.getField key field) d =
      (match (map.insertMany pairs)[field]? with
        | some value => .ok value
        | none => .error .notFound, d) := by
  refine ⟨?_, operate_getField hidle hmap⟩
  have hfirst : pairs[0].1 ∈ map.insertMany pairs := by
    rw [ExtTreeMap.mem_insertMany_list, List.contains_iff_mem]
    exact Or.inr (List.mem_map_of_mem (List.getElem_mem hsome))
  exact perform_hgetAll hidle hmap hfirst

end Reading

/-! ## All pairs or none -/

/-- On a store that can fail at any point: a call whose arguments do not pair up, or which has none,
is refused before anything is asked. One that fails leaves everything as it was. One that succeeds
has written all its pairs and nothing else, answers their number, and the map can be read at once,
as a whole or by field. Where nothing fails and nobody else writes, a call whose arguments pair up
succeeds. -/
theorem hset_writes_all_or_none {τ : Type} {b : Backend τ} {view : τ → Database}
    (falters : Falters b view) (now : Instant) (key : String) (values : List String) (t : τ) :
    let outcome := b.perform now (plan (.hset key values)) t
    let before := view t
    let after := view outcome.2
    (values.length < 2 ∨ values.length % 2 = 1 →
      outcome = (.error (.validation (.unpairedFields values.length)), t)) ∧
    (∀ e, outcome.1 = .error e → after = before) ∧
    (∀ n : Int, outcome.1 = .ok n → ∃ pairs : List (String × String),
      values = pairs.flatMap (fun p => [p.1, p.2]) ∧ n = pairs.length ∧ 2 * n = values.length ∧
      Overrides key pairs before.committed after.committed ∧
      after = { before with committed := after.committed } ∧
      let map := (before.committed.mapOf key).insertMany pairs
      ∀ later, Database.backend.perform later (plan (.hgetAll key)) after =
        (.ok map.toList, after) ∧
      ∀ field, Database.backend.operate later (.getField key field) after =
        (match map[field]? with
          | some value => .ok value
          | none => .error .notFound, after)) ∧
    (2 ≤ values.length → values.length % 2 = 0 → ∀ d : Database, d.draft = none →
      d.sharing ≠ .nothing → d.isReadOnly = false →
      (Database.backend.perform now (plan (.hset key values)) d).1 = .ok (values.length / 2)) := by
  intro outcome before after
  by_cases hunpaired : values.length < 2 ∨ values.length % 2 ≠ 0
  · have hrefused : outcome = (.error (.validation (.unpairedFields values.length)), t) :=
      perform_hset_unpaired hunpaired now t
    refine ⟨fun _ => hrefused, fun e _ => ?_, fun n hok => ?_, fun hlong heven => ?_⟩
    · show view outcome.2 = view t
      rw [hrefused]
    · rw [hrefused] at hok
      cases hok
    · omega
  · have hvalues : (Page.pairs values).flatMap (fun p => [p.1, p.2]) = values :=
      flatMap_pairs (by omega)
    have hlength : 2 * (Page.pairs values).length = values.length := by
      rw [← length_flatMap_pairs, hvalues]
    have houtcome : outcome = b.transaction now
        (do setFields key (Page.pairs values); return ((Page.pairs values).length : Int)) t := by
      show b.perform now (plan (.hset key values)) t = _
      rw [plan_hset hunpaired]
      rfl
    have hcases := transaction_setFields_cases falters now key (Page.pairs values) t
    rw [← houtcome] at hcases
    refine ⟨fun hbad => absurd hbad (by omega), ?_, ?_, ?_⟩
    · intro e herror
      rcases hcases with ⟨-, hsame⟩ | ⟨hok, -⟩
      · exact hsame
      · rw [herror] at hok
        cases hok
    · intro n hok
      rcases hcases with ⟨⟨e, herror⟩, -⟩ | ⟨hdone, hidle, s, hafter, hover⟩
      · rw [hok] at herror
        cases herror
      · have hn : n = (Page.pairs values).length := Except.ok.inj (hok.symm.trans hdone)
        have hs : after.committed = s := congrArg Database.committed hafter
        rw [← hs] at hafter hover
        have hidle' : after.draft = none := by
          rw [show after = _ from hafter]
          exact hidle
        exact ⟨Page.pairs values, hvalues.symm, hn, by omega, hover, hafter,
          reads_of_insertMany hidle' hover.map (by omega)⟩
    · intro _ _ d hidle hshared hwritable
      have hhalf : ((Page.pairs values).length : Int) = values.length / 2 := by omega
      rw [← hhalf]
      exact perform_hset_alone hidle hshared hwritable hunpaired now

/-- Three pairs, two of them for one field, on a store with room for two writes, and on one with
room for three. -/
theorem hset_writes_all_or_none_rationed :
    let d : Database :=
      { Database.empty .file with
        committed := (Store.empty.setField 0 "h" "a" "0").setField 0 "h" "z" "9" }
    let call := plan (.hset "h" ["a", "1", "b", "2", "a", "3"])
    let short := Database.rationed.perform ⟨0⟩ call (d, 2)
    let enough := Database.rationed.perform ⟨0⟩ call (d, 3)
    (∃ e, short.1 = .error e) ∧ short.2.1 = d ∧ enough.1 = .ok (3 : Int) ∧
      (Database.backend.perform ⟨0⟩ (plan (.hgetAll "h")) enough.2.1).1 =
        .ok [("a", "3"), ("b", "2"), ("z", "9")] := by
  intro d call short enough
  have hshort : short.1 = .error (.store (.other "database or disk is full")) := rfl
  have henough : enough.1 = .ok (3 : Int) := rfl
  obtain ⟨-, hsame, -, -⟩ := hset_writes_all_or_none Database.falters_rationed ⟨0⟩ "h"
    ["a", "1", "b", "2", "a", "3"] (d, 2)
  obtain ⟨-, -, hall, -⟩ := hset_writes_all_or_none Database.falters_rationed ⟨0⟩ "h"
    ["a", "1", "b", "2", "a", "3"] (d, 3)
  obtain ⟨pairs, hvalues, -, -, -, -, hread⟩ := hall 3 henough
  have hpairs : pairs = [("a", "1"), ("b", "2"), ("a", "3")] := by
    rw [← pairs_flatMap pairs, ← hvalues]
    rfl
  have hmap : ((d.committed.mapOf "h").insertMany pairs).toList =
      [("a", "3"), ("b", "2"), ("z", "9")] := by
    rw [hpairs]
    decide +kernel
  refine ⟨⟨_, hshort⟩, hsame _ hshort, henough, ?_⟩
  rw [← hmap]
  exact congrArg Prod.fst (hread ⟨0⟩).1

end Command

end SqlCache
