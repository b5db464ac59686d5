import SqlCache.Proofs.Database.Occasion
import SqlCache.Proofs.Store.Dictionary

/-!
A database refines a dictionary whose entries run out. Between two calls the committed tables stand
for what the dictionary holds, as far as it is present (`Dictionary.Represents`); the passing of
time and every call preserve this, and a call is answered alike on both sides. Main result:
`Dictionary.refines`.
-/

set_option autoImplicit false

namespace SqlCache.Dictionary

variable {now : Instant} {db : Database} {d : Dictionary}

/-- A database stands for a dictionary from a reading of the clock on, and takes calls. -/
structure Represents (now : Instant) (db : Database) (d : Dictionary) : Prop where
  idle : db.draft = none
  writable : db.isReadOnly = false
  timely : db.committed.Timely
  same : db.committed.dictionary now.millis = d.present now.millis

/-- A statement can number a variable for each key that a call counts. -/
def Call.FewKeys : Call → Prop
  | count keys => keys.toFinset.card < Operation.mostVariables
  | _ => True

instance (c : Call) : Decidable c.FewKeys := by
  cases c <;> unfold Call.FewKeys <;> infer_instance

/-- No call is refused for its arguments. -/
theorem Call.refusal?_operation {c : Call} (few : c.FewKeys) : c.operation.refusal? = none := by
  cases c with
  | count keys =>
      have hlt : (distinct keys).length < Operation.mostVariables := by
        rw [Store.length_distinct]
        exact few
      exact if_neg (Nat.not_le.mpr hlt)
  | set | setNx | expire | delete | getBytes | getText | ttl | setField | getField | deleteField
  | getFields => rfl

/-- A database that nothing stands in the way of does what its tables do. -/
theorem perform_plan (hidle : db.draft = none) (hwritable : db.isReadOnly = false) {c : Call}
    (few : c.FewKeys) :
    Database.backend.perform now c.plan db =
      ((db.committed.apply now c.operation).1.bind c.read,
        { db with committed := (db.committed.apply now c.operation).2 }) := by
  have happly := Database.apply_of_idle hidle hwritable (Call.refusal?_operation few) now
  show ((db.apply now c.operation).1.bind c.read, (db.apply now c.operation).2) = _
  rw [happly]

namespace Represents

theorem empty (now : Instant) (sharing : Sharing) : Represents now (.empty sharing) .empty where
  idle := rfl
  writable := rfl
  timely := Store.timely_empty
  same := Store.dictionary_eq (fun key => by simp [Database.empty, Store.empty, Store.live?,
    Dictionary.empty, present]) rfl

/-- Time passes alike on both sides. -/
theorem later {later : Instant} (r : Represents now db d) (h : now ≤ later) :
    Represents later db d where
  idle := r.idle
  writable := r.writable
  timely := r.timely
  same := by
    have hms : now.millis ≤ later.millis := Instant.millis_le_millis h
    rw [← Store.present_dictionary _ hms, r.same, present_present hms]

/-- A call is answered alike on both sides. -/
theorem step (r : Represents now db d) (hnow : now.isRepresentable = true) {c : Call}
    (few : c.FewKeys) :
    (Database.backend.perform now c.plan db).1 = (perform now c d).1 ∧
      Represents now (Database.backend.perform now c.plan db).2 (perform now c d).2 := by
  rw [perform_plan r.idle r.writable few]
  refine ⟨?_, r.idle, r.writable, Store.timely_apply r.timely _, ?_⟩
  · rw [Store.reply_eq_answer hnow r.timely, r.same]
    rfl
  · rw [Store.dictionary_apply hnow, r.same]
    rfl

/-- Calls that are made one after another are answered alike on both sides. -/
theorem answers (r : Represents now db d) {calls : List (Instant × Call)}
    (hafter : ∀ call ∈ calls, now ≤ call.1)
    (horder : calls.Pairwise fun a b => a.1 ≤ b.1)
    (hrange : ∀ call ∈ calls, call.1.isRepresentable = true)
    (few : ∀ call ∈ calls, call.2.FewKeys) :
    Call.answers (fun now c => Database.backend.perform now c.plan) calls db =
      Call.answers perform calls d := by
  induction calls generalizing now db d with
  | nil => rfl
  | cons call rest ih =>
      obtain ⟨reading, c⟩ := call
      rw [List.pairwise_cons] at horder
      have hhead := List.mem_cons_self (a := (reading, c)) (l := rest)
      obtain ⟨hreply, hnext⟩ :=
        (r.later (hafter _ hhead)).step (hrange _ hhead) (few _ hhead)
      have hrest := ih hnext horder.1 horder.2
        (fun call hcall => hrange call (List.mem_cons_of_mem _ hcall))
        (fun call hcall => few call (List.mem_cons_of_mem _ hcall))
      show _ :: _ = _ :: _
      rw [hreply, hrest]

end Represents

/-- Whatever calls are made on a database that is empty at first, at readings of the clock that do
not go back, each is answered as the dictionary answers it. -/
theorem refines (sharing : Sharing) (calls : List (Instant × Call))
    (horder : calls.Pairwise fun a b => a.1 ≤ b.1)
    (hrange : ∀ call ∈ calls, call.1.isRepresentable = true)
    (few : ∀ call ∈ calls, call.2.FewKeys) :
    Call.answers (fun now c => Database.backend.perform now c.plan) calls (.empty sharing) =
      Call.answers perform calls .empty := by
  cases calls with
  | nil => rfl
  | cons call rest =>
      refine (Represents.empty call.1 sharing).answers ?_ horder hrange few
      intro other hother
      rcases List.mem_cons.mp hother with rfl | hrest
      · exact Int.le_refl _
      · exact (List.pairwise_cons.mp horder).1 other hrest

/-- A key that is written for two milliseconds, late in the first one, and is looked at until it is
gone and written again; the second time it is counted, and its map has a field. -/
def lapsing : List (Instant × Call) :=
  [(⟨1900000⟩, .set "a" "x".toUTF8 ⟨2000000⟩),
    (⟨2100000⟩, .ttl "a"),
    (⟨2999999⟩, .getText "a"),
    (⟨3000000⟩, .getText "a"),
    (⟨3000000⟩, .setNx "a" "y".toUTF8 .zero),
    (⟨3000001⟩, .ttl "a"),
    (⟨3000001⟩, .count ["a", "b", "a"]),
    (⟨3000001⟩, .setField "a" "f" "z"),
    (⟨3000002⟩, .getFields "a")]

theorem refines_lapsing :
    Call.answers (fun now c => Database.backend.perform now c.plan) lapsing (.empty .file) =
      [⟨.set "a" "x".toUTF8 ⟨2000000⟩, .ok ()⟩,
        ⟨.ttl "a", .ok (some ⟨900000⟩)⟩,
        ⟨.getText "a", .ok "x"⟩,
        ⟨.getText "a", .error .notFound⟩,
        ⟨.setNx "a" "y".toUTF8 .zero, .ok true⟩,
        ⟨.ttl "a", .ok none⟩,
        ⟨.count ["a", "b", "a"], .ok 1⟩,
        ⟨.setField "a" "f" "z", .ok ()⟩,
        ⟨.getFields "a", .ok [("f", "z")]⟩] :=
  (refines .file lapsing (by decide) (by decide) (by decide)).trans (by with_unfolding_all rfl)

end SqlCache.Dictionary
