import Patronage.Proofs.Change
import Patronage.Proofs.Deletion
/-!
# Subscribers without a subscription

A subscriber that was deleted has no subscription in the store, and it stays so until a change of
its level is granted.  Meanwhile no receipt is issued to it.  Main statements:

* `Manager.candid_updateLevel` — a change of level that is refused notes no subscription;
* `Course.Lapsed.passes` — whoever has no subscription stays without until it is granted one;
* `System.deletion_complete` — a deletion cancels what runs, it may be tried again, and no receipt is
  issued after it.
-/

namespace Patronage

open Manager

/-- A call that notes a subscription in the store. -/
def Call.Notes : Call → Prop
  | .subscriptionCreated .. | .levelChanged .. => True
  | _ => False

/-- Most operations note no subscription. -/
theorem Call.not_notes_of_kind {c : Call}
    (h : c.Registers ∨ c.Cancels ∨ c.Attaches ∨ c.Redeems) : ¬c.Notes := by
  cases c with
  | subscriptionCreated | levelChanged => simp [Registers, Cancels, Attaches, Redeems] at h
  | _ => exact id

/-- The store has a subscriber, and it has no subscription there. -/
def Course.Lapsed (user : Bytes) (s : Course) : Prop :=
  ∃ r, s.Reads user r ∧ r.subscriptionId = none

namespace Course

variable {s : Course} {user : Bytes}

theorem Lapsed.alike {s' : Course} (h : s.Lapsed user) (ha : s.Alike s') : s'.Lapsed user := by
  obtain ⟨r, hr, hnone⟩ := h
  exact ⟨r, hr.alike ha, hnone⟩

/-- An update that leaves a subscriber without subscription does so wherever it is. -/
theorem Lapsed.of_update {α : Type} (h : s.Lapsed user) {s' : Course} {other : Bytes}
    {change : Subscriber → Subscriber} {report : Subscriber → Subscriber → α × Log.Entry}
    (hstore : s'.world.store = (s.world.store.update other change report).state)
    (hchange : other = user → ∀ r, r.subscriptionId = none → (change r).subscriptionId = none) :
    s'.Lapsed user := by
  obtain ⟨r, hr, hnone⟩ := h
  have hfind : s'.world.store.find? user = some (if other = user then change r else r) := by
    rw [hstore]
    exact Store.find?_update_of_some change report hr
  refine ⟨_, hfind, ?_⟩
  split
  · rename_i hu
    exact hchange hu r hnone
  · exact hnone

/-- Calls that note no subscription keep a subscriber without one. -/
theorem Lapsed.after (h : s.Lapsed user) (rules : Rules) {c : Call} (hc : ¬c.Notes) :
    (s.after rules c).Lapsed user := by
  by_cases hstores : c.Stores
  · cases c with
    | create other password now =>
      obtain ⟨r, hr, hnone⟩ := h
      refine ⟨r, ?_, hnone⟩
      have hstore : (s.after rules (.create other password now)).world.store =
        (s.world.store.create other password now).state := World.store_writeAll _ _
      rw [Reads, hstore]
      exact Store.find?_create_of_some s.world.store other password now hr
    | accessedAt other now =>
      exact h.of_update (World.store_writeAll _ _) fun _ r hr => hr
    | canceledAt other now => exact h.of_update (World.store_writeAll _ _) fun _ r _ => rfl
    | setCustomer other customer now =>
      refine h.of_update (World.store_writeAll _ _) fun _ r hr => ?_
      unfold Subscriber.withCustomer
      split <;> exact hr
    | subscriptionCreated | levelChanged => exact absurd trivial hc
    | _ => exact hstores.elim
  · obtain ⟨r, hr, hnone⟩ := h
    exact ⟨r, hr.after rules hstores, hnone⟩

/-- Programs that note no subscription keep a subscriber without one. -/
theorem Lapsed.attempt {α : Type} (h : s.Lapsed user) (rules : Rules) (luck : Call → Luck)
    {p : Program α} (hp : p.Uses fun c => ¬c.Notes) :
    (s.attempt rules luck p).2.Lapsed user := by
  refine attempt_of_uses (I := Lapsed user) rules luck (fun ha h => h.alike ha) ?_ hp h
  intro s c hc hs
  obtain he | he := s.ask_eq_or rules (luck c) c
  · exact he.symm ▸ hs
  · exact he.symm ▸ hs.after rules hc

end Course

/-! ### Changes of level -/

/-- What takes effect in the store is heard of. -/
def Luck.Firm (luck : Call → Luck) : Prop := ∀ call, call.Stores → ∀ m, luck call ≠ .after m

/-- The program gives a subscriber without subscription one only if the program is its own and
answers. -/
def Program.Candid {α : Type} (rules : Rules) (luck : Call → Luck) (user : Bytes)
    (c : Credentials) (p : Program α) : Prop :=
  ∀ s : Course, s.Lapsed user → (s.attempt rules luck p).2.Lapsed user ∨
    (c.user = user ∧ ∃ a, (s.attempt rules luck p).1 = .ok a)

namespace Program

open Course

variable {α β : Type} {rules : Rules} {luck : Call → Luck} {user : Bytes} {c : Credentials}

theorem candid_of_uses {p : Program α} (h : p.Uses fun c => ¬c.Notes) :
    p.Candid rules luck user c := fun _ hs => .inl (hs.attempt rules luck h)

theorem Candid.after {p : Program α} {f : α → Program β} (hp : p.Uses fun c => ¬c.Notes)
    (hf : ∀ a, (f a).Candid rules luck user c) : (p >>= f).Candid rules luck user c := by
  intro s hs
  have hlapsed := hs.attempt rules luck hp
  cases h : (s.attempt rules luck p).1 with
  | error e =>
    rw [attempt_bind_error s rules luck h]
    exact .inl hlapsed
  | ok a =>
    rw [attempt_bind_ok s rules luck h]
    exact hf a _ hlapsed

theorem Candid.within {p : Program α} (h : p.Candid rules luck user c)
    (fields : Log.Fields Log.Field) : (p.within fields).Candid rules luck user c := by
  intro s hs
  rw [attempt_within]
  obtain hlapsed | ⟨hc, hok⟩ := h _ (hs.alike (.within s (s.world.context.bind fields)))
  · exact .inl (hlapsed.alike (.within _ _))
  · exact .inr ⟨hc, hok⟩

/-- A call that gives a subscriber a subscription answers if nothing befalls it. -/
theorem candid_persist {call : Call} (hfirm : c.user = user → Luck.Firm luck) (hstores : call.Stores)
    (h : ∀ s : Course, s.Lapsed user → (s.after rules call).Lapsed user ∨
      (c.user = user ∧ ∃ a, (s.world.answer rules call).1 = .ok a)) :
    (persist (ask call)).Candid rules luck user c := by
  intro s hs
  obtain ⟨hworld, hanswer⟩ := attempt_persist rules luck s (ask call)
  rw [hworld]
  simp only [hanswer, attempt_ask]
  cases hl : luck call with
  | before m => exact .inl hs
  | fine => exact h s hs
  | after m =>
    obtain hlapsed | ⟨hc, -⟩ := h s hs
    · exact .inl hlapsed
    · exact absurd hl (hfirm hc call hstores m)

end Program

namespace Course

variable {s : Course} {user other : Bytes}

/-- An update of another subscriber changes nothing, and an update of a stored one answers. -/
theorem Lapsed.update (h : s.Lapsed user) (change : Subscriber → Subscriber)
    (report : Subscriber → Subscriber → Unit × Log.Entry) {s' : Course}
    (hstore : s'.world.store = (s.world.store.update other change report).state) :
    s'.Lapsed user ∨
      (other = user ∧ ∃ a, (s.world.store.update other change report).answer = .ok a) := by
  by_cases hu : other = user
  · obtain ⟨r, hr, -⟩ := h
    have hfind : s.world.store.find? other = some r := hu ▸ hr
    exact .inr ⟨hu, (), by simp [Store.update, hfind, Outcome.ok]⟩
  · exact .inl (h.of_update hstore fun hu' => absurd hu' hu)

end Course

namespace Manager

open Program

variable {rules : Rules} {luck : Call → Luck} {user : Bytes}

theorem candid_changeLevel {c : Credentials} (hfirm : c.user = user → Luck.Firm luck) (p : Provider)
    (choice : LevelChoice) (id : String) : (changeLevel c p choice id).Candid rules luck user c := by
  refine Candid.after (uses_ask not_false) fun s => ?_
  refine Candid.after (uses_ask not_false) fun current => ?_
  refine Candid.after (uses_ofExcept _) fun wanted => ?_
  split
  · exact candid_of_uses trivial
  refine Candid.after (uses_ask not_false) fun allowed => ?_
  split
  · refine Candid.after (uses_ask not_false) fun updated => candid_persist hfirm trivial fun s hs => ?_
    exact hs.update _ _ (World.store_writeAll _ _)
  · exact candid_of_uses trivial

theorem candid_subscribe {c : Credentials} (hfirm : c.user = user → Luck.Firm luck) (p : Provider)
    (choice : LevelChoice) (r : Subscriber) : (subscribe c p choice r).Candid rules luck user c := by
  rcases subscribe_cases c p choice r with ⟨f, hfail⟩ | ⟨customer, -, -, hsubscribe⟩
  · rw [hfail]
    exact candid_of_uses trivial
  · rw [hsubscribe]
    refine Candid.after (uses_ofExcept _) fun last => ?_
    refine Candid.after (uses_orRequiresAction (uses_ask not_false)) fun id => ?_
    exact candid_persist hfirm trivial fun s hs => hs.update _ _ (World.store_writeAll _ _)

theorem candid_updateLevel {c : Credentials} (hfirm : c.user = user → Luck.Firm luck) (r : Subscriber)
    (p : Provider) (choice : LevelChoice) :
    (updateLevel c r p choice).Candid rules luck user c := by
  refine Candid.within ?_ _
  split
  · exact candid_changeLevel hfirm p choice _
  · exact candid_subscribe hfirm p choice r

end Manager

/-! ### Runs without a subscription -/

/-- The request is to change the level of a subscriber. -/
def Request.Levels (user : Bytes) : Request → Prop
  | .updateLevel c .. | .readAndUpdateLevel c .. => c.user = user
  | _ => False

/-- Whatever a subscriber asks for its level is refused, and what the store does for it is heard
of. -/
def Trial.Spares (user : Bytes) (s : Course) : Trial → Prop
  | .request rules luck r =>
    r.Levels user → Luck.Firm luck ∧ ¬(s.attempt rules luck r.program).1.isOk
  | .setClock _ => True

namespace Course

variable {s : Course} {user : Bytes}

/-- As trials follow one another, no change of level of a subscriber is granted. -/
def Spared (user : Bytes) (s : Course) : List Trial → Prop
  | [] => True
  | t :: ts => t.Spares user s ∧ Spared user (s.pass t) ts

open Program in
/-- A trial that grants a subscriber no change of level keeps it without subscription. -/
theorem Lapsed.pass (h : s.Lapsed user) {t : Trial} (ht : t.Spares user s) :
    (s.pass t).Lapsed user := by
  cases t with
  | setClock now => exact h.alike (.clockAt s now)
  | request rules luck r =>
    have quiet : (∀ c, r.Makes c → ¬c.Notes) → (s.pass (.request rules luck r)).Lapsed user :=
      fun hmakes => h.attempt rules luck (r.uses_program.mono hmakes)
    have candid : ∀ {c : Credentials}, (r.Levels user ↔ c.user = user) →
        ((c.user = user → Luck.Firm luck) → r.program.Candid rules luck user c) →
        (s.pass (.request rules luck r)).Lapsed user := by
      intro c hlevels hcandid
      obtain hlapsed | ⟨hc, a, ha⟩ := hcandid (fun hc => (ht (hlevels.2 hc)).1) s h
      · exact hlapsed
      · refine absurd ?_ (ht (hlevels.2 hc)).2
        rw [ha]
        rfl
    cases r with
    | updateSubscriber | getSubscriber => exact quiet fun _ h => Call.not_notes_of_kind (.inl h)
    | deleteSubscriber => exact quiet fun _ h => Call.not_notes_of_kind (.inr (.inl h))
    | addPaymentMethod =>
      exact quiet fun _ h => Call.not_notes_of_kind (.inr (.inr (.inl h)))
    | createReceipt => exact quiet fun _ h => Call.not_notes_of_kind (.inr (.inr (.inr h)))
    | updateLevel c record p choice =>
      exact candid .rfl fun hfirm => candid_updateLevel hfirm record p choice
    | readAndUpdateLevel c p choice =>
      refine candid .rfl fun hfirm => Candid.after (uses_getSubscriber c not_false) fun r => ?_
      exact candid_updateLevel hfirm r p choice

/-- Until a change of level is granted, a subscriber without subscription stays without. -/
theorem Lapsed.passes (h : s.Lapsed user) {ts : List Trial} (hts : s.Spared user ts) :
    (s.passes ts).Lapsed user := by
  induction ts generalizing s with
  | nil => exact h
  | cons t ts ih => exact ih (h.pass hts.1) hts.2

end Course

/-! ### Receipts -/

namespace Course

variable {s : Course} {c : Credentials} {r : Subscriber}

/-- A subscriber is read if nothing befalls the call. -/
theorem attempt_getSubscriber (rules : Rules) {luck : Call → Luck}
    (hluck : luck (.lookUp c.user c.hmac) = .fine)
    (hr : s.world.store.lookup c.user c.hmac = .found r) :
    (s.attempt rules luck (getSubscriber c)).1 = .ok r ∧
      (s.attempt rules luck (getSubscriber c)).2.world.ledger = s.world.ledger := by
  unfold getSubscriber operation
  rw [attempt_within, attempt_bind_ok _ rules luck (a := .found r)]
  · rw [attempt_ask, hluck]
    exact ⟨rfl, rfl⟩
  · rw [attempt_ask, hluck, ← hr]
    rfl

/-- No receipt is issued to a subscriber without subscription, and nothing is noted of it. -/
theorem Lapsed.createReceipt (h : s.Lapsed c.user) (rules : Rules) {luck : Call → Luck}
    (hluck : luck (.lookUp c.user c.hmac) = .fine)
    (hr : s.world.store.lookup c.user c.hmac = .found r) (bytes : Bytes) :
    (s.attempt rules luck (Manager.createReceipt c bytes)).1 = .error (.plain .notFound) ∧
      (s.attempt rules luck (Manager.createReceipt c bytes)).2.world.ledger = s.world.ledger := by
  have hnone : r.subscriptionId = none := by
    obtain ⟨r', hr', hnone⟩ := h
    obtain rfl := Option.some.inj ((Store.find?_of_lookup hr).symm.trans hr')
    exact hnone
  unfold Manager.createReceipt operation
  rw [attempt_within]
  generalize hs₀ : s.within _ = s₀
  have hr₀ : s₀.world.store.lookup c.user c.hmac = .found r := by
    rw [← hs₀]
    exact hr
  obtain ⟨hread, hledger⟩ := attempt_getSubscriber rules hluck hr₀
  rw [attempt_bind_ok _ rules luck hread, hnone]
  refine ⟨rfl, hledger.trans ?_⟩
  rw [← hs₀]
  rfl

end Course

/-! ### Deletions -/

namespace Course

/-- The subscriber `r` was deleted: it is canceled in the store, and nothing of its customer runs. -/
structure Deleted (c : Credentials) (r : Subscriber) (s : Course) : Prop where
  reads : s.Reads c.user (r.canceled c.now)
  idle : ∀ customer, r.customer = some customer → ∀ id, ¬s.world.registry.Runs customer id

/-- Whoever asks for a receipt for a subscriber, with its own tag, is told that there is nothing, and
nothing is noted of it. -/
def IssuesNothing (user : Bytes) (s : Course) : Prop :=
  ∀ (c : Credentials) (r : Subscriber), c.user = user →
    s.world.store.lookup c.user c.hmac = .found r → ∀ (rules : Rules) (luck : Call → Luck),
      luck (.lookUp c.user c.hmac) = .fine → ∀ bytes,
        (s.attempt rules luck (createReceipt c bytes)).1 = .error (.plain .notFound) ∧
          (s.attempt rules luck (createReceipt c bytes)).2.world.ledger = s.world.ledger

theorem Lapsed.issuesNothing {s : Course} {user : Bytes} (h : s.Lapsed user) :
    s.IssuesNothing user := by
  intro c r hc hr rules luck hluck bytes
  subst hc
  exact h.createReceipt rules hluck hr bytes

/-- A deletion that answers has deleted the subscriber as it was found. -/
theorem deleted_of_delete {s : Course} (hs : s.Filed) {c : Credentials} {r : Subscriber}
    (hr : s.world.store.lookup c.user c.hmac = .found r) (rules : Rules) (luck : Call → Luck)
    (h : (s.attempt rules luck (deleteSubscriber c)).1 = .ok ()) :
    (s.attempt rules luck (deleteSubscriber c)).2.Deleted c r := by
  obtain ⟨hstore, hidle⟩ := world_of_delete rules luck hs hr h
  refine ⟨?_, hidle⟩
  have hfind := Store.find?_of_lookup hr
  rw [Reads, hstore, Store.canceledAt, Store.get?_update, if_pos rfl, hfind]
  rfl

end Course

/-- From wherever a system has come to, a deletion that answers has canceled the subscriber and
everything that runs for its customer, and until a change of its level is granted no receipt is
issued to it.  If canceling at the processor fails, whether or not it took effect, nothing is changed
in the store, and so a later deletion leaves the store as it would have done at once. -/
theorem System.deletion_complete {w : World} (hw : w.Fresh) (moves : List (Move (Rules × Luck)))
    {c : Credentials} {r : Subscriber}
    (hr : ((start w).play .inMemory moves).course.world.store.lookup c.user c.hmac = .found r) :
    let s := ((start w).play .inMemory moves).course
    (∀ rules luck, (s.attempt rules luck (deleteSubscriber c)).1 = .ok () →
      (s.attempt rules luck (deleteSubscriber c)).2.Deleted c r ∧
        ∀ ts, (s.attempt rules luck (deleteSubscriber c)).2.Spared c.user ts →
          ((s.attempt rules luck (deleteSubscriber c)).2.passes ts).IssuesNothing c.user) ∧
    ∀ customer, r.customer = some customer →
      (∀ rules luck, luck (.cancelAll customer.provider customer.id) ≠ .fine →
        (s.attempt rules luck (deleteSubscriber c)).1 ≠ .ok () ∧
          (s.attempt rules luck (deleteSubscriber c)).2.world.store = s.world.store) ∧
      ∀ ts, (∀ t ∈ ts, t.FailsToCancel c.user c.hmac customer) → ∀ rules luck,
        ((s.passes ts).attempt rules luck (deleteSubscriber c)).1 = .ok () →
          (s.attempt rules luck (deleteSubscriber c)).1 = .ok () ∧
            ((s.passes ts).attempt rules luck (deleteSubscriber c)).2.world.store =
              (s.attempt rules luck (deleteSubscriber c)).2.world.store := by
  intro s
  have hfiled : s.Filed := filed_play hw moves
  refine ⟨fun rules luck hok => ?_, fun customer hc => ⟨fun rules luck hluck => ?_,
    fun ts hts rules luck hok => ?_⟩⟩
  · have hdeleted := Course.deleted_of_delete hfiled hr rules luck hok
    refine ⟨hdeleted, fun ts hts => ?_⟩
    have hlapsed : (s.attempt rules luck (deleteSubscriber c)).2.Lapsed c.user :=
      ⟨_, hdeleted.reads, rfl⟩
    exact (hlapsed.passes hts).issuesNothing
  · exact Course.store_of_delete rules luck hr hc hluck
  · exact Course.delete_after_passes hfiled hr hc hts rules luck hok

namespace Sample

/-- Everything is canceled at the processor, and that it was is not heard of. -/
def unheard : Call → Luck
  | .cancelAll .. => .after timeout
  | _ => .fine

/-- Nothing befalls any call. -/
def undisturbed : Call → Luck := fun _ => .fine

/-- The first try to delete the subscriber. -/
def deleteUnheard : Trial := .request asShipped.1 unheard (.deleteSubscriber credentials)

/-- The subscriber is seen again. -/
def seeAgain : Trial := .request asShipped.1 undisturbed (.updateSubscriber credentials)

end Sample

open Sample in
/-- The first try is not heard of, and the second one leaves the store as a deletion at once would
have; after that there is no receipt, although the subscriber is seen again. -/
theorem System.deletion_complete_of_unheard :
    let s := ((start .shipped).play .inMemory (oneByOne asShipped (subscribe 500))).course
    let late := (s.passes [deleteUnheard]).attempt asShipped.1 undisturbed
      (deleteSubscriber credentials)
    let soon := s.attempt asShipped.1 undisturbed (deleteSubscriber credentials)
    let seen := soon.2.passes [seeAgain]
    s.world.store.lookup credentials.user credentials.hmac = .found Sample.subscribed ∧
      (s.attempt asShipped.1 unheard (deleteSubscriber credentials)).2.world.store =
        s.world.store ∧
      late.1 = .ok () ∧ late.2.world.store = soon.2.world.store ∧
      soon.2.Deleted credentials Sample.subscribed ∧
      (seen.attempt asShipped.1 undisturbed (createReceipt credentials bytes)).1 =
        .error (.plain .notFound) := by
  intro s late soon seen
  have hr : s.world.store.lookup credentials.user credentials.hmac = .found Sample.subscribed := by
    decide +kernel
  have hlate : late.1 = .ok () := eq_ok_of_isOk (by decide +kernel)
  have hseen : (seen.world.store.find? credentials.user).any (·.password = credentials.hmac) := by
    decide +kernel
  obtain ⟨r, hfind, htag⟩ := (Option.any_eq_true _ _).1 hseen
  have hlookup : seen.world.store.lookup credentials.user credentials.hmac = .found r :=
    Store.lookup_eq_found.2 ⟨hfind, of_decide_eq_true htag⟩
  dsimp only [s] at hr
  dsimp only [late, s] at hlate
  dsimp only [seen, soon, s] at hlookup
  dsimp only [seen, late, soon, s]
  obtain ⟨hdelete, hfails⟩ := deletion_complete World.fresh_shipped _ hr
  obtain ⟨hstore, hretry⟩ := hfails ⟨"emulator_cus_0000000000000001_0", .stripe⟩ rfl
  have hlost : ∀ t ∈ [deleteUnheard], t.FailsToCancel credentials.user credentials.hmac
      ⟨"emulator_cus_0000000000000001_0", .stripe⟩ := by
    intro t ht
    obtain rfl := List.mem_singleton.1 ht
    exact ⟨rfl, rfl, nofun⟩
  obtain ⟨hsoon, hsame⟩ := hretry _ hlost asShipped.1 undisturbed hlate
  obtain ⟨hdeleted, hlapsed⟩ := hdelete asShipped.1 undisturbed hsoon
  have hreceipt := hlapsed [seeAgain] ⟨fun hlevels => hlevels.elim, trivial⟩ credentials r rfl
    hlookup asShipped.1 undisturbed rfl bytes
  exact ⟨hr, (hstore asShipped.1 unheard nofun).2, hlate, hsame, hdeleted, hreceipt.1⟩

end Patronage
