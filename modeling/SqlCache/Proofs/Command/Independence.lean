import SqlCache.Command
import SqlCache.Proofs.Counter.Stage
import SqlCache.Proofs.Store.Items

/-!
Calls that have nothing to do with each other. An operation, a command or a call on the log names
items, and a call that needs a transaction puts only operations on these to it
(`Command.names_plan`). So whatever the database is (shared or not, writable or not, with or without
a transaction open), a call is something confined to its items that is done to the committed tables
(`Call.actsWithin_perform`). Main result: `Call.independent`, that calls on disjoint items commute,
and that a call changes no other item and depends on none. Every call reads a clock of its own.
-/

set_option autoImplicit false

namespace SqlCache

open Std

/-! ## Programs that name items -/

namespace Dialogue

variable {Q : Type} {R : Q → Type} {P : Q → Prop} {α β ε : Type}

/-- Whatever it is answered, the dialogue asks only questions of one kind. -/
inductive Asks (P : Q → Prop) : Dialogue Q R α → Prop where
  | done (a : α) : Asks P (.done a)
  | ask {q : Q} {next : R q → Dialogue Q R α} (kind : P q) (goesOn : ∀ r, Asks P (next r)) :
      Asks P (.ask q next)

namespace Asks

theorem question {q : Q} (kind : P q) : Asks P (Dialogue.question q : Dialogue Q R (R q)) :=
  .ask kind fun r => .done r

/-- One dialogue after another. -/
theorem andThen {d : Dialogue Q R α} {next : α → Dialogue Q R β} (h : Asks P d)
    (hnext : ∀ a, Asks P (next a)) : Asks P (d >>= next) := by
  induction h with
  | done a => exact hnext a
  | ask kind _ ih => exact .ask kind ih

/-- A program after another, which runs only if the first one succeeds. -/
theorem bind {x : ExceptT ε (Dialogue Q R) α} {f : α → ExceptT ε (Dialogue Q R) β}
    (h : Asks P x.run) (hf : ∀ a, Asks P (f a).run) : Asks P (x >>= f).run := by
  refine h.andThen fun result => ?_
  cases result with
  | ok a => exact hf a
  | error e => exact .done _

end Asks

end Dialogue

/-- The program puts only operations on these items, whatever it is answered. -/
abbrev Script.Names {α : Type} (items : Set Item) (script : Script α) : Prop :=
  Dialogue.Asks (fun op : Operation => op.items ⊆ items) script

/-- The plan needs only operations on these items. -/
def Plan.Names {α : Type} (items : Set Item) : Plan α → Prop
  | .answer _ => True
  | .single op _ => op.items ⊆ items
  | .atomic body => Script.Names items body.run

namespace Counter

variable {key : String} {delta : Int} {items : Set Item}

theorem names_adding (h : Item.scalar key ∈ items) (value : Int) (remaining : Option Duration) :
    Script.Names items (adding key delta value remaining) := by
  unfold adding
  split
  · refine .ask (Set.singleton_subset_iff.mpr h) fun written => ?_
    cases written <;> exact .done _
  · exact .done _

/-- An increment is about one key: it asks for its lock, its bytes and its time to live, and writes
it. -/
theorem names_increment (h : Item.scalar key ∈ items) :
    (increment key delta).Names items := by
  have hkey : {Item.scalar key} ⊆ items := Set.singleton_subset_iff.mpr h
  show Script.Names items (body key delta).run
  rw [body_run]
  refine .ask (Set.empty_subset _) fun held => ?_
  cases held with
  | error e => exact .done _
  | ok u =>
      refine .ask hkey fun bytes => ?_
      rcases found_cases key delta bytes with ⟨-, hfound⟩ | ⟨_, value, -, -, hfound⟩ |
        ⟨e, -, -, hfound⟩ | ⟨-, fault, hfound⟩
      · rw [hfound]
        exact names_adding h 0 none
      · rw [hfound]
        refine .ask hkey fun measure => ?_
        cases measure with
        | error e => exact .done _
        | ok remaining => exact names_adding h value remaining
      · rw [hfound]
        exact .done _
      · rw [hfound]
        exact .done _

end Counter

namespace Command

/-- The items that a command names. List commands name none, since they are not supported. -/
def items : Command → Set Item
  | set key .. | get key | incr key | incrBy key _ | expire key _ => {.scalar key}
  | hset key values => {item | ∃ pair ∈ Page.pairs values, item = .field key pair.1}
  | hgetAll key => Item.fieldsOf key
  | del keys | present keys => Item.scalars keys
  | lindex .. | lpush .. | rpush .. | lset .. | lpop .. | lrange .. => ∅

theorem names_setFields {items : Set Item} {key : String} {pairs : List (String × String)}
    (h : ∀ pair ∈ pairs, Item.field key pair.1 ∈ items) :
    Script.Names items (setFields key pairs).run := by
  induction pairs with
  | nil => exact .done _
  | cons pair pairs ih =>
      rw [List.forall_mem_cons] at h
      have hfield : (Operation.setField key pair.1 pair.2).items ⊆ items :=
        Set.singleton_subset_iff.mpr h.1
      exact .bind (.question hfield) fun _ => ih h.2

theorem names_deleteKeys {items : Set Item} {keys : List String}
    (h : ∀ key ∈ keys, Item.scalar key ∈ items) :
    Script.Names items (deleteKeys keys).run := by
  induction keys with
  | nil => exact .done _
  | cons key keys ih =>
      rw [List.forall_mem_cons] at h
      have hkey : (Operation.delete key).items ⊆ items := Set.singleton_subset_iff.mpr h.1
      exact .bind (.question hkey) fun _ => .bind (ih h.2) fun _ => .done _

/-- What a command needs are operations on the items it names. -/
theorem names_plan (c : Command) : c.plan.Names c.items := by
  cases c with
  | set | get | expire | hgetAll => exact subset_rfl
  | incr key | incrBy key => exact Counter.names_increment rfl
  | hset key values =>
      simp only [plan]
      unfold fieldPairs
      split
      · trivial
      · next pairs hpairs =>
          split at hpairs
          · cases hpairs
          · cases hpairs
            have hfields : Script.Names (hset key values).items
                (setFields key (Page.pairs values)).run :=
              names_setFields fun pair hpair => ⟨pair, hpair, rfl⟩
            exact .bind hfields fun _ => .done _
  | del keys =>
      simp only [plan]
      split
      · trivial
      · exact names_deleteKeys fun key hkey => ⟨key, hkey, rfl⟩
  | present keys =>
      simp only [plan]
      split
      · trivial
      · next hkeys =>
          show (Operation.count keys).items ⊆ _
          rw [Operation.items, if_neg hkeys]
          exact subset_rfl
  | lindex | lpush | rpush | lset | lpop | lrange => trivial

end Command

/-! ## What a call does to the committed tables -/

namespace Database

variable {α β : Type} {items : Set Item} {d : Database}

/-- The database with other committed tables. -/
def withStore (d : Database) (s : Store) : Database := { d with committed := s }

/-- The database with other committed tables and an open transaction. -/
def drafting (d : Database) (s : Store) (draft : Draft) : Database :=
  { d with committed := s, draft := some draft }

theorem direct_withStore (s : Store) (writes : Bool) (table : Option Store.Table)
    (work : Store → Result α × Store) :
    (d.withStore s).direct writes table work =
      match d.writeFault? writes <|> d.conflict? writes table with
      | some fault => (.error (.store fault), d.withStore s)
      | none => ((work s).1, d.withStore (work s).2) := rfl

theorem applyInside_drafting (s : Store) (draft : Draft) (now : Instant) (op : Operation) :
    (d.drafting s draft).applyInside now op =
      match op.refusal? <|> (d.writeFault? op.isWrite).map .store with
      | some e => (.error e, d.drafting s draft)
      | none => ((draft.store.apply now op).1, d.drafting s ⟨(draft.store.apply now op).2,
          if op.isWrite then op.table?.toList ++ draft.touched else draft.touched⟩) := by
  have hopen : (d.drafting s draft).draft = some draft := rfl
  exact applyInside_of_draft hopen now op

/-- A transaction begins with the committed tables, or is refused whatever these are, unless it runs
apart from the database. -/
theorem begin_withStore (together : ¬ d.Apart) :
    (d.draft = none ∧ ∀ s, backend.begin (d.withStore s) = (.ok ⟨true⟩, d.drafting s ⟨s, []⟩)) ∨
      ∃ e, ∀ s, backend.begin (d.withStore s) = (.error e, d.withStore s) := by
  obtain ⟨committed, draft, sharing, isReadOnly⟩ := d
  cases draft with
  | some draft =>
      let fault := lockFault ⟨committed, some draft, sharing, isReadOnly⟩
      exact Or.inr ⟨.store fault, fun s => rfl⟩
  | none =>
      cases sharing with
      | nothing => exact absurd ⟨rfl, rfl⟩ together
      | file | pages => exact Or.inl ⟨rfl, fun s => rfl⟩

/-- Whatever the committed tables are, what is done to the database is done to them, is confined to
some items, and leaves all else as it is. -/
def ActsWithin (items : Set Item) (d : Database) (act : Database → β × Database) : Prop :=
  ∃ work : Store → β × Store, Confined items work ∧
    ∀ s, act (d.withStore s) = ((work s).1, d.withStore (work s).2)

/-- Work on the committed tables that nothing is in the way of, or that is refused. -/
theorem actsWithin_direct {writes : Bool} {table : Option Store.Table}
    {work : Store → Result α × Store} (h : Confined items work) :
    ActsWithin items d fun d => d.direct writes table work := by
  cases hfault : d.writeFault? writes <|> d.conflict? writes table with
  | some fault =>
      refine ⟨_, .const items (.error (.store fault)), fun s => ?_⟩
      simp only [direct_withStore, hfault]
  | none =>
      refine ⟨work, h, fun s => ?_⟩
      simp only [direct_withStore, hfault]

/-- An operation outside of transactions acts on the items it names. -/
theorem actsWithin_apply (now : Instant) (op : Operation) :
    ActsWithin op.items d fun d => d.apply now op := by
  cases hrefusal : op.refusal? with
  | some e =>
      refine ⟨_, .const _ (.error e), fun s => ?_⟩
      simp only [apply, hrefusal]
  | none =>
      simp only [apply, hrefusal]
      exact actsWithin_direct (Store.confined_apply now op)

/-- An operation of an open transaction does the same to any draft. -/
theorem within_draft (d : Database) (now : Instant) (op : Operation) :
    ∃ work : Store → op.Reply × Store, Confined op.items work ∧ ∀ committed draft, ∃ touched,
      (d.drafting committed draft).applyInside now op =
        ((work draft.store).1, d.drafting committed ⟨(work draft.store).2, touched⟩) := by
  cases hfault : op.refusal? <|> (d.writeFault? op.isWrite).map .store with
  | some e =>
      refine ⟨_, .const _ (.error e), fun committed draft => ⟨draft.touched, ?_⟩⟩
      simp only [applyInside_drafting, hfault]
  | none =>
      refine ⟨_, Store.confined_apply now op, fun committed draft => ⟨if op.isWrite then
        op.table?.toList ++ draft.touched else draft.touched, ?_⟩⟩
      simp only [applyInside_drafting, hfault]

/-- A program in an open transaction does the same to any draft. -/
theorem within_run (d : Database) (given : Instant) (c : Connection) {script : Script α}
    (names : script.Names items) (clock : Nat → Instant) :
    ∃ work : Store → α × Store, Confined items work ∧ ∀ committed draft, ∃ touched later,
      script.run (backend.ticking.within given c) (d.drafting committed draft, clock) =
        ((work draft.store).1, d.drafting committed ⟨(work draft.store).2, touched⟩, later) := by
  induction names generalizing clock with
  | done a => exact ⟨_, .const items a, fun _ draft => ⟨draft.touched, clock, rfl⟩⟩
  | @ask op next hop _ ih =>
      obtain ⟨first, hfirst, hwithin⟩ := within_draft d (clock 0) op
      -- what follows depends on the answer to the first operation, so there is a rest for each
      choose rest hrest hruns using fun r => ih r fun n => clock (n + 1)
      refine ⟨_, (hfirst.mono hop).andThen hrest, fun committed draft => ?_⟩
      obtain ⟨touched, hstep⟩ := hwithin committed draft
      have htick : backend.ticking.within given c op (d.drafting committed draft, clock) =
          ((first draft.store).1, d.drafting committed ⟨(first draft.store).2, touched⟩,
            fun n => clock (n + 1)) := by
        show (((d.drafting committed draft).applyInside (clock 0) op).1,
          ((d.drafting committed draft).applyInside (clock 0) op).2, _) = _
        rw [hstep]
      rw [Dialogue.run_ask, htick]
      exact hruns _ committed _

/-- Carry out a plan with a clock that is read anew for every operation. -/
def carryOut (clock : Nat → Instant) (plan : Plan α) (d : Database) : Result α × Database :=
  let (r, d, _) := backend.ticking.perform (clock 0) plan (d, clock)
  (r, d)

theorem carryOut_atomic (clock : Nat → Instant) (body : Body α) (d : Database) :
    carryOut clock (.atomic body) d =
      ((backend.ticking.transaction (clock 0) body (d, clock)).1,
        (backend.ticking.transaction (clock 0) body (d, clock)).2.1) := rfl

/-- A plan acts on the items it names: a body that fails is rolled back, and one that cannot begin
or runs apart from the database does nothing. -/
theorem actsWithin_carryOut {plan : Plan α} (names : plan.Names items) (clock : Nat → Instant) :
    ActsWithin items d (carryOut clock plan) := by
  cases plan with
  | answer result => exact ⟨_, .const items result, fun _ => rfl⟩
  | single op read =>
      obtain ⟨work, hwork, hact⟩ := actsWithin_apply (d := d) (clock 0) op
      refine ⟨_, (hwork.mono names).map (·.bind read), fun s => ?_⟩
      have happly : (d.withStore s).apply (clock 0) op =
          ((work s).1, d.withStore (work s).2) := hact s
      show (((d.withStore s).apply (clock 0) op).1.bind read,
        ((d.withStore s).apply (clock 0) op).2) = _
      rw [happly]
  | atomic body =>
      by_cases apart : d.Apart
      · refine ⟨_, .const items (body.run.run attendApart clock).1, fun s => ?_⟩
        have apart' : (d.withStore s).Apart := ⟨apart.idle, apart.sharing_eq⟩
        rw [carryOut_atomic, apart'.ticking_transaction_eq]
      rcases begin_withStore apart with ⟨hidle, hbegin⟩ | ⟨e, hbegin⟩
      · obtain ⟨work, hwork, hruns⟩ := within_run d (clock 0) ⟨true⟩ names clock
        refine ⟨_, hwork.orRestored, fun s => ?_⟩
        obtain ⟨touched, later, hrun⟩ := hruns s ⟨s, []⟩
        rw [carryOut_atomic, Backend.ticking_transaction, hbegin]
        simp only [hrun, Backend.ticking_finish]
        cases (work s).1 with
        | ok a =>
            have hcommit : (d.drafting s ⟨(work s).2, touched⟩).commit = d.withStore (work s).2 :=
              congrArg (Database.mk _ · _ _) hidle.symm
            exact congrArg (Prod.mk _) hcommit
        | error e =>
            have hrollback : (d.drafting s ⟨(work s).2, touched⟩).rollback = d.withStore s :=
              congrArg (Database.mk _ · _ _) hidle.symm
            exact congrArg (Prod.mk _) hrollback
      · refine ⟨_, .const items (.error e), fun s => ?_⟩
        rw [carryOut_atomic, Backend.ticking_transaction, hbegin]

end Database

/-! ## Calls -/

/-- A call of a client on its cache. -/
inductive Call where
  | operate (op : Operation)
  /-- The text stored at a key. -/
  | text (key : String)
  | increment (key : String) (delta : Int)
  | command (c : Command)
  | log (call : PubSub.LogCall)

namespace Call

/-- What a call answers. -/
abbrev Reply : Call → Type
  | operate op => op.Reply
  | text _ => Result String
  | increment .. => Result Int
  | command c => Result c.Answer
  | log call => call.Reply

/-- The items that a call names. -/
def items : Call → Set Item
  | operate op => op.items
  | text key | increment key _ => {.scalar key}
  | command c => c.items
  | log call => call.items

/-- The answer to a call outside of transactions, and the database after it. -/
def perform (clock : Nat → Instant) : (call : Call) → Database → call.Reply × Database
  | operate op, d => d.apply (clock 0) op
  | text key, d => d.carryOut clock (.getText key)
  | increment key delta, d => d.carryOut clock (Counter.increment key delta)
  | command c, d => d.carryOut clock c.plan
  | log call, d => d.applyLog (clock 0) call

/-- A call acts on the items it names. -/
theorem actsWithin_perform (call : Call) (clock : Nat → Instant) (d : Database) :
    d.ActsWithin call.items (call.perform clock) := by
  cases call with
  | operate op => exact Database.actsWithin_apply (clock 0) op
  | text key =>
      have names : (Plan.getText key).Names {.scalar key} := subset_rfl
      exact Database.actsWithin_carryOut names clock
  | increment key delta =>
      exact Database.actsWithin_carryOut (Counter.names_increment (Set.mem_singleton _)) clock
  | command c => exact Database.actsWithin_carryOut c.names_plan clock
  | log call => exact Database.actsWithin_direct (Store.confined_applyLog (clock 0) call)

/-- Of the messages a call changes at most the one that gets the next id. -/
theorem messages_kept (call : Call) (clock : Nat → Instant) (d : Database) {id : Int}
    (hid : id ≠ d.committed.lastMessageId + 1) :
    (call.perform clock d).2.committed.messages[id]? = d.committed.messages[id]? := by
  have hunnamed (hitem : Item.messages ∉ call.items) :
      (call.perform clock d).2.committed.messages = d.committed.messages := by
    obtain ⟨work, hwork, hact⟩ := call.actsWithin_perform clock d
    have hperform : call.perform clock d =
        ((work d.committed).1, d.withStore (work d.committed).2) :=
      hact d.committed
    rw [hperform]
    exact (Prod.mk.inj (hwork.kept d.committed hitem)).1
  cases call with
  | operate op =>
      cases op with
      | publish channel message =>
          rcases d.apply_cases (clock 0) (.publish channel message) with ⟨e, hsame⟩ | ⟨-, hdone⟩
          · rw [perform, hsame]
          · rw [perform, hdone]
            simp [Store.apply, Store.publish, ExtTreeMap.getElem?_insert, hid.symm]
      | count keys =>
          rw [hunnamed]
          simp only [items, Operation.items]
          split <;> simp [Item.scalars]
      | set | getBytes | delete | setField | getField | deleteField | getFields | scan | setNx
      | expire | ttl | lock => rw [hunnamed]; simp [items, Operation.items, Item.fieldsOf]
  | text | increment => rw [hunnamed]; simp [items]
  | command c =>
      rw [hunnamed]
      cases c <;> simp [items, Command.items, Item.fieldsOf, Item.scalars]
  | log call =>
      have hrest := (d.committed.applyLog_messages (clock 0) call).1
      simp only [perform, Database.applyLog, Database.direct]
      split
      · rfl
      · rw [hrest]

/-- Calls on disjoint items give the same answers and leave the same database in either order. A
call leaves alone what it does not name: all other items, the messages there are, and whatever is
known of an open transaction. Its answer, and what it makes of the items it names, depend on no
other item. -/
theorem independent (first second : Call) (clock clock' : Nat → Instant) (d : Database) :
    let a := first.perform clock d
    let b := second.perform clock' d
    (Disjoint first.items second.items →
      (second.perform clock' a.2).1 = b.1 ∧ (first.perform clock b.2).1 = a.1 ∧
        (second.perform clock' a.2).2 = (first.perform clock b.2).2) ∧
    (∃ s, a.2 = d.withStore s ∧ (∀ item ∉ first.items, s.row item = d.committed.row item) ∧
      ∀ id ≠ d.committed.lastMessageId + 1, s.messages[id]? = d.committed.messages[id]?) ∧
    (∀ s, Store.AgreeOn first.items s d.committed →
      (first.perform clock (d.withStore s)).1 = a.1 ∧
        Store.AgreeOn first.items (first.perform clock (d.withStore s)).2.committed
          a.2.committed) := by
  intro a b
  obtain ⟨work, hwork, hact⟩ := first.actsWithin_perform clock d
  obtain ⟨work', hwork', hact'⟩ := second.actsWithin_perform clock' d
  have ha : a = ((work d.committed).1, d.withStore (work d.committed).2) := hact d.committed
  have hb : b = ((work' d.committed).1, d.withStore (work' d.committed).2) := hact' d.committed
  have hmessages (id : Int) (hid : id ≠ d.committed.lastMessageId + 1) :
      a.2.committed.messages[id]? = d.committed.messages[id]? := first.messages_kept clock d hid
  refine ⟨fun hdisjoint => ?_, ⟨(work d.committed).2, ?_, ?_, ?_⟩, fun s hagree => ?_⟩
  · obtain ⟨hsecond, hfirst, hstore⟩ := hwork.commute hwork' hdisjoint d.committed
    rw [ha, hb, hact, hact']
    exact ⟨hsecond, hfirst, congrArg d.withStore hstore⟩
  · rw [ha]
  · exact fun item hitem => hwork.kept d.committed hitem
  · rw [ha] at hmessages
    exact hmessages
  · rw [ha, hact]
    exact ⟨hwork.answer hagree, hwork.agree hagree⟩

/-- Places whose texts run together to the same are different places: setting a field of one map and
deleting a field of another do not see each other. -/
theorem independent_runTogether :
    let d : Database := .empty .file
    let clock : Nat → Instant := fun _ => ⟨0⟩
    let set : Call := .command (.hset "a" ["bc", "1"])
    let deleted : Call := .operate (.deleteField "ab" "c")
    (deleted.perform clock (set.perform clock d).2).1 = (.ok 0 : Result Int) ∧
      (set.perform clock (deleted.perform clock d).2).1 = (.ok 1 : Result Int) := by
  intro d clock set deleted
  have hdisjoint : Disjoint set.items deleted.items := by
    rw [Set.disjoint_left]
    rintro _ ⟨pair, hpair, rfl⟩ hfield
    exact absurd (Item.field.inj hfield).1 (by decide)
  obtain ⟨hcommute, -, -⟩ := independent set deleted clock clock d
  obtain ⟨hdeleted, hset, -⟩ := hcommute hdisjoint
  exact ⟨hdeleted.trans rfl, hset.trans rfl⟩

end Call

end SqlCache
