import Patronage.Proofs.Failure
import Patronage.Proofs.Pricing
import Patronage.Proofs.Refusal
/-!
# What a change of level leaves behind

A change of level reads the subscription from its processor and compares level and currency.  Only
if they differ it asks whether the change is allowed, and only if it is, it asks the processor for
it; so whatever is refused on the way changes nothing.  `Program.Yields` says what a program that
nobody interrupts asks on its way and where it ends.  Main statements:

* `Manager.yields_changeLevel` — a change of level up to where both levels were read;
* `Emulator.updateSubscription_state` — what a change that is granted does to the processor;
* `Manager.exists_yields_move` — what follows, and what each way to end leaves behind;
* `System.concludes_of_updateLevel` — so every change of level ends, whatever happened before.

What this does not say: what happens where a level of thousands of digits is to be written into a
refusal; no such level is assumed to occur (see `Text.intString`).
-/

namespace Patronage

open Manager Text

/-! ### Where programs end -/

/-- The course with a call that has changed nothing. -/
def Course.noting (s : Course) (c : Call) : Course := ⟨s.world, s.past ++ [(s.world, c)]⟩

namespace Program

variable {α β : Type} {rules : Rules}

/-- Where nobody interrupts it and no call goes wrong by itself, the program asks and hears what is
listed and ends with a result at a course. -/
structure Yields (rules : Rules) (p : Program α) (s : Course) (h : List Heard) (r : Except Fault α)
    (s' : Course) : Prop where
  heard : p.heard .inMemory (rules, .fine) s = h
  run : p.run (Service.inMemory.host (rules, .fine)) s = (r, s')

theorem yields_done (r : Except Fault α) (s : Course) : (Program.done r).Yields rules s [] r s :=
  ⟨rfl, rfl⟩

theorem yields_ask (rules : Rules) (c : Call) (s : Course) :
    (ask c).Yields rules s [⟨c, (s.world.answer rules c).1⟩] (s.world.answer rules c).1
      (s.after rules c) :=
  ⟨rfl, rfl⟩

/-- A call that is answered from what there is leaves the world as it is. -/
theorem yields_ask_of_answer {c : Call} {s : Course} {a : Except Fault c.Answer}
    (h : s.world.answer rules c = (a, s.world)) :
    (ask c).Yields rules s [⟨c, a⟩] a (s.noting c) := by
  have hask := yields_ask rules c s
  rwa [Course.after, h] at hask

theorem yields_write (e : Log.Entry) (s : Course) :
    (write e).Yields rules s [] (.ok ()) { s with world := s.world.write e } :=
  ⟨rfl, rfl⟩

theorem Yields.andThen {p : Program α} {f : Except Fault α → Program β} {s s' s'' : Course}
    {h h' : List Heard} {r : Except Fault α} {r' : Except Fault β} (hp : p.Yields rules s h r s')
    (hf : (f r).Yields rules s' h' r' s'') : (p.andThen f).Yields rules s (h ++ h') r' s'' := by
  constructor
  · obtain ⟨rfl, hrun⟩ := hp
    induction p generalizing s with
    | done r₀ =>
      obtain ⟨rfl, rfl⟩ := Prod.mk.inj hrun
      exact hf.heard
    | call c next ih => exact congrArg (List.cons _) (ih _ hrun)
    | enter fields next ih => exact ih _ hrun
    | leave saved next ih => exact ih hrun
    | log e next ih => exact ih hrun
  · have hrun := congrFun (run_andThen (Service.inMemory.host (rules, .fine)) p f) s
    refine hrun.trans ?_
    show (f (p.run (Service.inMemory.host (rules, Luck.fine)) s).1).run
      (Service.inMemory.host (rules, .fine))
        (p.run (Service.inMemory.host (rules, Luck.fine)) s).2 = _
    rw [hp.run]
    exact hf.run

theorem Yields.bind {p : Program α} {f : α → Program β} {s s' s'' : Course} {h h' : List Heard}
    {a : α} {r : Except Fault β} (hp : p.Yields rules s h (.ok a) s')
    (hf : (f a).Yields rules s' h' r s'') : (p >>= f).Yields rules s (h ++ h') r s'' :=
  hp.andThen hf

theorem Yields.bind_error {p : Program α} (f : α → Program β) {s s' : Course} {h : List Heard}
    {e : Fault} (hp : p.Yields rules s h (.error e) s') :
    (p >>= f).Yields rules s h (.error e) s' := by
  have hbind : (p >>= f).Yields rules s (h ++ []) (.error e) s' :=
    hp.andThen (yields_done (.error e) s')
  rwa [List.append_nil] at hbind

theorem Yields.within {p : Program α} {s s' : Course} {h : List Heard} {r : Except Fault α}
    (fields : Log.Fields Log.Field)
    (hp : p.Yields rules (s.within (s.world.context.bind fields)) h r s') :
    (p.within fields).Yields rules s h r
      (s'.within (s'.world.context.restore (s.world.context.save fields))) := by
  have hleave : (p.andThen fun r => .leave (s.world.context.save fields) (.done r)).Yields rules
      (s.within (s.world.context.bind fields)) (h ++ []) r
        (s'.within (s'.world.context.restore (s.world.context.save fields))) :=
    hp.andThen ⟨rfl, rfl⟩
  rw [List.append_nil] at hleave
  exact ⟨hleave.heard, hleave.run⟩

end Program

/-! ### What is asked of the rules -/

/-- The levels between which a change was asked about. -/
def Heard.change? : Heard → Option (Int × Int)
  | ⟨.allows old new, _⟩ => some (old, new)
  | _ => none

/-- The changes that were asked about, in order. -/
def consulted (h : List Heard) : List (Int × Int) := h.filterMap Heard.change?

namespace Manager

open Program

variable {rules : Rules} {s s' : Course} {c : Credentials} {p : Provider} {choice : LevelChoice}
  {id : String} {e : Emulator} {sub : Subscription} {h : List Heard} {r : Except Fault Unit}

/-- The level and currency that a subscription is read at. -/
def tierOf (sub : Subscription) (hlevel : 0 ≤ sub.level) : Tier :=
  ⟨sub.level, lowerString sub.currency, hlevel⟩

/-- The level and currency that are asked for. -/
def tierFor (choice : LevelChoice) (hlevel : 0 ≤ choice.level) : Tier :=
  ⟨choice.level, lowerString choice.currency, hlevel⟩

/-- A change of level first reads the subscription, and its level and currency. -/
theorem yields_changeLevel (he : s.world.registry.find? p = some e)
    (hsub : e.subscriptions.get? id = some sub) (hold : 0 ≤ sub.level) (hnew : 0 ≤ choice.level)
    (hmove : (move c p choice id sub (tierOf sub hold) (tierFor choice hnew)).Yields rules
      ((s.noting (.subscription p id)).noting (.tier p sub)) h r s') :
    (changeLevel c p choice id).Yields rules s
      ([⟨.subscription p id, .ok sub⟩] ++ ([⟨.tier p sub, .ok (tierOf sub hold)⟩] ++ h)) r s' := by
  have hread : s.world.answer rules (.subscription p id) = (.ok sub, s.world) := by
    rw [← Emulator.subscription_eq_ok.2 hsub]
    exact World.asking_of_some he _
  have htier : (s.noting (.subscription p id)).world.answer rules (.tier p sub) =
      (.ok (tierOf sub hold), (s.noting (.subscription p id)).world) := by
    refine (World.asking_of_some he _).trans ?_
    rw [Emulator.tier, tier_of_nonneg hold]
    rfl
  have hwanted : (Program.ofExcept ((Tier.of choice.level choice.currency).mapError
      Fault.invalid)).Yields rules ((s.noting (.subscription p id)).noting (.tier p sub)) []
        (.ok (tierFor choice hnew)) ((s.noting (.subscription p id)).noting (.tier p sub)) := by
    rw [tier_of_nonneg hnew]
    exact yields_done _ _
  rw [changeLevel_eq]
  exact (yields_ask_of_answer hread).bind ((yields_ask_of_answer htier).bind (hwanted.bind hmove))

/-! ### Writing to the store -/

/-- A write to the store about one subscriber changes its record, if it is stored, and nothing
else. -/
theorem yields_persist (rules : Rules) (c : Credentials) (call : Call)
    (change : Subscriber → Subscriber) {report : Subscriber → Subscriber → call.Answer × Log.Entry}
    (hcall : s.world.answer rules call =
      s.world.withStore (s.world.store.update c.user change report)) :
    ∃ a r s', (persist (ask call)).Yields rules s [⟨call, a⟩] r s' ∧
      s'.world.ledger = s.world.ledger ∧ s'.world.registry = s.world.registry ∧
      (∀ record, s.world.store.find? c.user = some record →
        r = .ok (report record (change record)).1 ∧
          s'.world.store = ⟨s.world.store.subscribers.insert c.user (change record)⟩) ∧
      (s.world.store.find? c.user = none → s'.world.store = s.world.store ∧
        r = .error (.because .notFound (some (Fault.notStoredMessage (Subscriber.tag c.user)))
          (.notStored (Subscriber.tag c.user)))) := by
  have hask := yields_ask rules call s
  rw [Course.after, hcall] at hask
  cases hrecord : s.world.store.find? c.user with
  | none =>
    rw [Store.update_eq_fail hrecord] at hask
    refine ⟨_, _, _, hask.andThen (yields_done _ _), rfl, rfl, ?_, fun _ => ⟨rfl, rfl⟩⟩
    intro record hnone
    cases hnone
  | some record =>
    have hupdate : s.world.store.update c.user change report =
        .ok ⟨s.world.store.subscribers.insert c.user (change record)⟩
          (report record (change record)).1 [(report record (change record)).2] := by
      rw [Store.update, hrecord]
    rw [hupdate] at hask
    refine ⟨_, _, _, hask.andThen (yields_done _ _), rfl, rfl, ?_, ?_⟩
    · intro record' hrecord'
      obtain rfl := Option.some.inj hrecord'
      exact ⟨rfl, rfl⟩
    · intro hnone
      cases hnone

end Manager

namespace Emulator

variable {e : Emulator} {r : LevelRequest} {key id : String} {sub : Subscription}

/-- A change that is granted was made before under its key, or it is carried out. -/
theorem updateSubscription_state (hsub : e.subscriptions.get? r.subscriptionId = some sub)
    (hid : sub.id = r.subscriptionId) (h : (e.updateSubscription r key).answer = .ok id) :
    id = r.subscriptionId ∧
      ((e.updatedByKey.get? key = some r ∧ (e.updateSubscription r key).state = e) ∨
        ∃ currency, e.templates.get? r.templateId = some currency ∧
          e.updatedByKey.get? key = none ∧
          (e.updateSubscription r key).state = e.moved sub r currency key) := by
  cases hkey : e.updatedByKey.get? key with
  | some previous =>
    have hpins := pins_of_get? hkey
    by_cases hprevious : r = previous
    · subst hprevious
      exact ⟨Except.ok.inj (h.symm.trans hpins.replayed), .inl ⟨rfl, hpins.unchanged _⟩⟩
    · cases h.symm.trans (hpins.refused r hprevious)
  | none =>
    obtain ⟨⟨sub', hactive⟩, hpriced⟩ := (granted_iff_of_free hkey).1 ⟨id, h⟩
    obtain ⟨currency, hcurrency⟩ := Option.isSome_iff_exists.1 hpriced
    obtain rfl := Option.some.inj (hsub.symm.trans (activeSubscription_eq_ok.1 hactive).1)
    have hmove : e.updateSubscription r key = e.moveLevel r key := by
      rw [updateSubscription, hkey]
    simp only [hmove, moveLevel, hactive, currencyOf_eq_ok.2 hcurrency] at h ⊢
    exact ⟨(Except.ok.inj h).symm.trans hid, .inr ⟨currency, hcurrency, trivial, rfl⟩⟩

end Emulator

namespace Manager

open Program

variable {rules : Rules} {s : Course} {c : Credentials} {p : Provider} {choice : LevelChoice}
  {id : String} {e : Emulator} {sub : Subscription}

/-- A subscription is read at the level and in the currency that are asked for. -/
def AsWanted (choice : LevelChoice) (sub : Subscription) : Prop :=
  (sub.level, lowerString sub.currency) = (choice.level, lowerString choice.currency)

instance (choice : LevelChoice) (sub : Subscription) : Decidable (AsWanted choice sub) :=
  inferInstanceAs (Decidable (_ = _))

/-- The change that is asked for at the processor. -/
def requestOf (choice : LevelChoice) (id : String) : LevelRequest :=
  ⟨id, choice.templateId, choice.level⟩

/-- What a change of level that the processor grants leaves behind. -/
structure Granted (c : Credentials) (p : Provider) (choice : LevelChoice) (id : String)
    (e : Emulator) (sub : Subscription) (w : World) (r : Except Fault Unit) (w' : World) :
    Prop where
  ledger : w'.ledger = w.ledger
  /-- The key stood for the change already and nothing moves; or it stands for it from now on, and
  of the subscription the level, the template and the currency are new. -/
  registry : (e.updatedByKey.get? choice.key = some (requestOf choice id) ∧
      w'.registry = w.registry) ∨
    ∃ currency, e.templates.get? choice.templateId = some currency ∧
      e.updatedByKey.get? choice.key = none ∧
      w'.registry = w.registry.set p
        { e with
          subscriptions := e.subscriptions.insert id
            { sub with level := choice.level, templateId := choice.templateId, currency }
          updatedByKey := e.updatedByKey.insert choice.key (requestOf choice id) }
  /-- Of a record that is stored the link to the subscription, the level and two times are new. -/
  stored : ∀ record, w.store.find? c.user = some record → r = .ok () ∧
    w'.store = ⟨w.store.subscribers.insert c.user
      { record with
        subscriptionId := some id
        subscriptionLevel := some choice.level
        levelChangedAt := some c.now
        accessedAt := c.now }⟩
  notStored : w.store.find? c.user = none → w'.store = w.store ∧
    r = .error (.because .notFound (some (Fault.notStoredMessage (Subscriber.tag c.user)))
      (.notStored (Subscriber.tag c.user)))

/-- How a change of level ends and what it leaves behind.  Where nothing is to be changed nothing is
asked; otherwise it is asked once whether the change is allowed, and then the processor decides.
Whatever is refused or fails leaves everything as it was. -/
def Concludes (rules : Rules) (c : Credentials) (p : Provider) (choice : LevelChoice) (id : String)
    (e : Emulator) (sub : Subscription) (w : World) (asked : List (Int × Int))
    (r : Except Fault Unit) (w' : World) : Prop :=
  if AsWanted choice sub then r = .ok () ∧ asked = [] ∧ w.Alike w'
  else asked = [(sub.level, choice.level)] ∧
    match rules.allows sub.level choice.level with
    | .error f => r = .error f ∧ w.Alike w'
    | .ok false =>
      r = .error (.refusal .invalidLevel
        ("Cannot change level from " ++ intString sub.level ++ " to " ++ intString choice.level)) ∧
        w.Alike w'
    | .ok true =>
      match (e.updateSubscription (requestOf choice id) choice.key).answer with
      | .error f => r = .error f ∧ w.Alike w'
      | .ok _ => Granted c p choice id e sub w r w'

theorem tierOf_eq_tierFor_iff (hold : 0 ≤ sub.level) (hnew : 0 ≤ choice.level) :
    tierOf sub hold = tierFor choice hnew ↔ AsWanted choice sub := by
  rw [tierOf, tierFor, Tier.mk.injEq, AsWanted, Prod.mk.injEq]

theorem Granted.alike {w₀ w w' w'' : World} {r : Except Fault Unit}
    (h : Granted c p choice id e sub w r w') (hw : w₀.Alike w) (hw' : w'.Alike w'') :
    Granted c p choice id e sub w₀ r w'' := by
  obtain ⟨hledger, hregistry, hstored, hnone⟩ := h
  rw [← hw'.ledger, hw.ledger] at hledger
  rw [← hw'.registry, hw.registry] at hregistry
  rw [← hw'.store, hw.store] at hstored hnone
  exact ⟨hledger, hregistry, hstored, hnone⟩

/-- What is neither in the store or the ledger nor at a processor does not matter. -/
theorem Concludes.alike {w₀ w w' w'' : World} {asked : List (Int × Int)} {r : Except Fault Unit}
    (h : Concludes rules c p choice id e sub w asked r w') (hw : w₀.Alike w) (hw' : w'.Alike w'') :
    Concludes rules c p choice id e sub w₀ asked r w'' := by
  have same : w.Alike w' → w₀.Alike w'' := fun h => hw.trans (h.trans hw')
  unfold Concludes at h ⊢
  split
  · rename_i hwanted
    rw [if_pos hwanted] at h
    exact ⟨h.1, h.2.1, same h.2.2⟩
  · rename_i hwanted
    rw [if_neg hwanted] at h
    refine ⟨h.1, ?_⟩
    have hend := h.2
    split at hend
    · exact hend.imp_right same
    · exact hend.imp_right same
    · split at hend
      · exact hend.imp_right same
      · exact hend.alike hw hw'

/-- Asking a processor for a change concerns nothing but the processor. -/
theorem alike_updateSubscription (rules : Rules) (choice : LevelChoice) {w : World}
    (hid : sub.id = id) (he : w.registry.find? p = some e) :
    (w.answer rules (.updateSubscription p sub choice.templateId choice.level choice.key)).1 =
        (e.updateSubscription (requestOf choice id) choice.key).answer ∧
      World.Alike
        { w with
          registry :=
            w.registry.set p (e.updateSubscription (requestOf choice id) choice.key).state }
        (w.answer rules
          (.updateSubscription p sub choice.templateId choice.level choice.key)).2 := by
  subst hid
  rw [World.updateSubscription_eq, World.withProcessor_of_some he]
  exact ⟨rfl, .writeAll _ _⟩

/-- What follows a change that is allowed: the processor is asked for it, and the store notes it if
it is granted. -/
theorem exists_yields_note (rules : Rules) (c : Credentials) (choice : LevelChoice)
    (hid : sub.id = id) (he : s.world.registry.find? p = some e)
    (hsub : e.subscriptions.get? id = some sub) :
    ∃ h r s', (Program.ask (.updateSubscription p sub choice.templateId choice.level choice.key) >>=
        fun updated => persist (Program.ask
          (.levelChanged c.user c.now choice.level updated))).Yields rules s h r s' ∧
      consulted h = [] ∧
      match (e.updateSubscription (requestOf choice id) choice.key).answer with
      | .error f => r = .error f ∧ s.world.Alike s'.world
      | .ok _ => Granted c p choice id e sub s.world r s'.world := by
  obtain ⟨hanswer, halike⟩ := alike_updateSubscription rules choice hid he
  have hask := yields_ask rules
    (.updateSubscription p sub choice.templateId choice.level choice.key) s
  have hself : s.world.registry.set p e = s.world.registry :=
    congrArg Registry.mk (Assoc.insert_of_get? he)
  rw [hanswer] at hask
  cases hgrant : (e.updateSubscription (requestOf choice id) choice.key).answer with
  | error f =>
    rw [hgrant] at hask
    rw [Emulator.state_of_refused hgrant, hself] at halike
    exact ⟨_, _, _, hask.bind_error _, rfl, rfl, halike⟩
  | ok updated =>
    -- whether the key was used before or not, the subscription named is the one that was read
    rw [hgrant] at hask
    obtain ⟨hupdated, hstate⟩ :=
      Emulator.updateSubscription_state (r := requestOf choice id) hsub hid hgrant
    obtain rfl : updated = id := hupdated
    obtain ⟨a, r, s', hnote, hledger, hregistry, hstored, hnone⟩ :=
      yields_persist rules c (.levelChanged c.user c.now choice.level updated)
        (·.movedTo updated choice.level c.now) rfl
    -- the processor that granted the change has not touched the store
    have hstore : (s.after rules _).world.store = s.world.store := halike.store
    rw [hstore] at hstored hnone
    refine ⟨_, r, s', hask.bind hnote, rfl, hledger.trans halike.ledger, ?_, hstored, hnone⟩
    rw [hregistry.trans halike.registry]
    refine hstate.imp (fun ⟨hkey, hsame⟩ => ⟨hkey, by rw [hsame, hself]⟩) ?_
    rintro ⟨currency, hcurrency, hkey, hmoved⟩
    exact ⟨currency, hcurrency, hkey, by rw [hmoved, Emulator.moved, hid]; rfl⟩

/-- What follows once the level of a subscription and the one that is asked for were read. -/
theorem exists_yields_move (rules : Rules) (c : Credentials) (hid : sub.id = id)
    (he : s.world.registry.find? p = some e)
    (hsub : e.subscriptions.get? id = some sub) (hold : 0 ≤ sub.level)
    (hnew : 0 ≤ choice.level) :
    ∃ h r s',
      (move c p choice id sub (tierOf sub hold) (tierFor choice hnew)).Yields rules s h r s' ∧
      Concludes rules c p choice id e sub s.world (consulted h) r s'.world := by
  unfold move Concludes
  by_cases hsame : AsWanted choice sub
  · simp only [(tierOf_eq_tierFor_iff hold hnew).2 hsame, if_pos hsame, if_true]
    exact ⟨_, _, _, yields_write _ s, rfl, rfl, (Course.Alike.write s _).world⟩
  · simp only [mt (tierOf_eq_tierFor_iff hold hnew).1 hsame, if_neg hsame, if_false]
    have hask : (Program.ask (.allows sub.level choice.level)).Yields rules s
        [⟨.allows sub.level choice.level, rules.allows sub.level choice.level⟩]
        (rules.allows sub.level choice.level) (s.noting (.allows sub.level choice.level)) :=
      yields_ask_of_answer rfl
    cases hallowed : rules.allows sub.level choice.level with
    | error f =>
      rw [hallowed] at hask
      exact ⟨_, _, _, hask.bind_error _, rfl, rfl, .refl _⟩
    | ok allowed =>
      rw [hallowed] at hask
      cases allowed with
      | false => exact ⟨_, _, _, hask.bind (yields_done _ _), rfl, rfl, .refl _⟩
      | true =>
        obtain ⟨h, r, s', hnote, hconsulted, hend⟩ := exists_yields_note rules c choice
          (s := s.noting (.allows sub.level choice.level)) hid he hsub
        refine ⟨_, r, s', hask.bind hnote, ?_, hend⟩
        show (sub.level, choice.level) :: consulted h = _
        rw [hconsulted]

/-- A change of level ends in one of these ways. -/
theorem exists_yields_updateLevel (rules : Rules) (c : Credentials) {record : Subscriber}
    (hrecord : record.subscriptionId = some id)
    (hid : sub.id = id) (he : s.world.registry.find? p = some e)
    (hsub : e.subscriptions.get? id = some sub) (hold : 0 ≤ sub.level) (hnew : 0 ≤ choice.level) :
    ∃ h r s', (updateLevel c record p choice).Yields rules s h r s' ∧
      Concludes rules c p choice id e sub s.world (consulted h) r s'.world := by
  let fields : Log.Fields Log.Field := .ofList [("subscriber", .text (Subscriber.tag c.user)),
    ("operation", .text "update_subscription_level_for_customer")]
  obtain ⟨h, r, s', hmove, hend⟩ := exists_yields_move rules c
    (s := ((s.within (s.world.context.bind fields)).noting (.subscription p id)).noting
      (.tier p sub)) hid he hsub hold hnew
  have hchange := yields_changeLevel (s := s.within (s.world.context.bind fields)) he hsub hold hnew
    hmove
  have hupdate : updateLevel c record p choice = (changeLevel c p choice id).within fields := by
    rw [updateLevel, hrecord]
    rfl
  rw [hupdate]
  exact ⟨_, r, _, hchange.within fields,
    hend.alike (Course.Alike.within s _).world (Course.Alike.within s' _).world⟩

end Manager

/-- Identifiers in use are among those drawn in every run. -/
theorem System.named_play {settings : Settings} {providers : List Provider} {clock : Moment}
    {signer : Signer} {w : World} (hw : World.build settings providers clock signer = .ok w)
    (moves : List (Move (Rules × Luck))) :
    ((start w).play .inMemory moves).course.Named :=
  forall_play_inMemory (P := Course.Named) (fun ha h => Course.Named.alike h ha)
    (fun rules c _ h => Course.named_after h rules c) (World.fresh_of_build hw).named moves

/-- Whatever happened before, a change of the level of a subscription that a processor has ends in
one of these ways.  With settings that were read from a file the currency of the subscription is in
lower case already, so what is compared is the level and currency that the processor has. -/
theorem System.concludes_of_updateLevel {settings : Settings} {providers : List Provider}
    {clock : Moment} {signer : Signer} {w : World}
    (hw : World.build settings providers clock signer = .ok w)
    (moves : List (Move (Rules × Luck))) (rules : Rules) (c : Credentials) (record : Subscriber)
    (p : Provider) (choice : Manager.LevelChoice) {id : String} {sub : Subscription}
    (hrecord : record.subscriptionId = some id)
    (hsub : ((start w).play .inMemory moves).course.world.registry.subscription? p id = some sub)
    (hold : 0 ≤ sub.level) (hnew : 0 ≤ choice.level) :
    let s := ((start w).play .inMemory moves).course
    let o := s.serve rules (.updateLevel c record p choice)
    let asked := consulted
      ((Manager.updateLevel c record p choice).heard .inMemory (rules, .fine) s)
    (∃ e, s.world.registry.find? p = some e ∧ e.subscriptions.get? id = some sub ∧
      Manager.Concludes rules c p choice id e sub s.world asked o.1 o.2.world) ∧
    ∀ path source, Settings.read path source = .ok settings →
      lowerString sub.currency = sub.currency := by
  intro s o asked
  have hid : sub.id = id := Course.id_of_subscription? (named_play hw moves) hsub
  obtain ⟨e, he, hfiled⟩ := Option.bind_eq_some_iff.1 hsub
  constructor
  · obtain ⟨h, r, s', hyields, hend⟩ :=
      Manager.exists_yields_updateLevel rules c hrecord hid he hfiled hold hnew
    have hrun : o = (r, s') := hyields.run
    have hasked : asked = consulted h := congrArg consulted hyields.heard
    refine ⟨e, he, hfiled, ?_⟩
    rw [hrun, hasked]
    exact hend
  · intro path source hread
    exact (priced_play (Settings.lowered_of_read hread) hw moves he).lowered hfiled

open Sample in
/-- A subscriber at a level of five hundred asks for one of a thousand, which is allowed. -/
theorem System.concludes_of_updateLevel_up :
    let s := ((start opened).play .inMemory (oneByOne asShipped (subscribe 500))).course
    let o := s.serve rules (.updateLevel credentials subscribed .stripe (choice 1000 "second"))
    let asked := consulted ((Manager.updateLevel credentials subscribed .stripe
      (choice 1000 "second")).heard .inMemory (rules, .fine) s)
    s.world.registry.subscription? .stripe "emulator_sub_0000000000000002_0" =
        some Emulator.Sample.held ∧
      ¬Manager.AsWanted (choice 1000 "second") Emulator.Sample.held ∧
      rules.allows 500 1000 = .ok true ∧
      ∃ e, s.world.registry.find? .stripe = some e ∧
        Manager.Concludes rules credentials .stripe (choice 1000 "second")
          "emulator_sub_0000000000000002_0" e Emulator.Sample.held s.world asked o.1 o.2.world := by
  intro s o asked
  have hsub : s.world.registry.subscription? .stripe "emulator_sub_0000000000000002_0" =
      some Emulator.Sample.held := by decide +kernel
  have hwanted : ¬Manager.AsWanted (choice 1000 "second") Emulator.Sample.held := by decide
  refine ⟨hsub, hwanted, rfl, ?_⟩
  dsimp only [s, o, asked] at hsub ⊢
  obtain ⟨⟨e, he, -, hend⟩, -⟩ := concludes_of_updateLevel build_opened
    (oneByOne asShipped (subscribe 500)) rules credentials subscribed .stripe
    (choice 1000 "second") rfl hsub (by decide) (by decide)
  exact ⟨e, he, hend⟩

end Patronage
