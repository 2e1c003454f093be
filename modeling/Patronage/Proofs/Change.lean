import Patronage.Proofs.Linkage
import Patronage.Proofs.Serial
/-!
# Changing the level

A processor moves a subscription at most once for an idempotency key.  Asked again for the same
change under the same key it answers as it did before and moves nothing, whatever has become of the
subscription since; and a key that was used for anything else is refused.  The store notes the level
that was asked for in every case.  Main statements:

* `World.updated?_answer` — keys are used up by changes that are granted, and by nothing else;
* `Course.keyed_through` — the keys of the processors are those of the changes granted so far;
* `Course.level_eq_iff_of_changed` — a change that is answered leaves the subscription at the level
  asked for exactly if it was there already or had not been granted under its key before.
-/

namespace Patronage

open Manager

/-! ### Keys -/

/-- What an idempotency key of a processor was first used for. -/
def Registry.updated? (r : Registry) (p : Provider) (key : String) : Option LevelRequest :=
  (r.find? p).bind (·.updatedByKey.get? key)

namespace Registry

variable {r : Registry} {p : Provider} {e : Emulator}

@[simp] theorem updated?_set (r : Registry) (p q : Provider) (e : Emulator) (key : String) :
    (r.set p e).updated? q key = if p = q then e.updatedByKey.get? key else r.updated? q key := by
  unfold updated?
  rw [find?_set]
  split <;> rfl

theorem updated?_of_find? (h : r.find? p = some e) (key : String) :
    r.updated? p key = e.updatedByKey.get? key := by
  simp [updated?, h]

end Registry

/-- A call that asks for a change. -/
def Call.Changes : Call → Prop
  | .updateSubscription .. => True
  | _ => False

/-- A change that a processor grants, with its provider and its key. -/
def World.granted? (w : World) : Call → Option (Provider × String × LevelRequest)
  | .updateSubscription p s templateId level key =>
    (w.answer w.catalog.rules (.updateSubscription p s templateId level key)).1.toOption.map
      fun _ => (p, key, ⟨s.id, templateId, level⟩)
  | _ => none

/-- A call that asks for no change uses no key up. -/
theorem Emulator.Shift.updatedByKey {m : Mint} {p : Provider} {e : Emulator} {c : Call}
    {s : Emulator × TokenSource} {d : Option String} (h : e.Shift m p c s d) (hc : ¬c.Changes) :
    s.1.updatedByKey = e.updatedByKey := by
  cases h with
  | same | customer | opened | billed | closed => rfl
  | moved => exact absurd trivial hc

namespace World

theorem updated?_answer_of_not (rules : Rules) (w : World) {c : Call} (hc : ¬c.Changes)
    (p : Provider) (key : String) :
    (w.answer rules c).2.registry.updated? p key = w.registry.updated? p key := by
  cases w.shift_answer rules c with
  | same registry => rw [registry]
  | «at» q e e' t find shift registry =>
    rw [registry, Registry.updated?_set]
    split
    · rename_i hq
      rw [← hq, Registry.updated?_of_find? find, ← shift.updatedByKey hc]
    · rfl

theorem granted?_of_not (w : World) {c : Call} (hc : ¬c.Changes) : w.granted? c = none := by
  cases c with
  | updateSubscription => exact absurd trivial hc
  | _ => rfl

theorem updated?_updateSubscription (rules : Rules) (w : World) (p : Provider) (s : Subscription)
    (templateId : String) (level : Int) (key : String) (q : Provider) (key' : String)
    (r : LevelRequest) :
    (w.answer rules (.updateSubscription p s templateId level key)).2.registry.updated? q key' =
        some r ↔
      w.registry.updated? q key' = some r ∨
        w.granted? (.updateSubscription p s templateId level key) = some (q, key', r) := by
  simp only [granted?, updateSubscription_eq]
  cases he : w.registry.find? p with
  | none => simp [withProcessor_of_none he, Except.toOption]
  | some e =>
    rw [withProcessor_of_some he, registry_writeAll]
    have hself : (w.registry.set p e).updated? q key' = w.registry.updated? q key' := by
      rw [Registry.updated?, Registry.find?_set_self he, Registry.updated?]
    rcases e.updateSubscription_cases ⟨s.id, templateId, level⟩ key with
      ⟨f, hfail⟩ | ⟨hkey, events, hreplay⟩ | ⟨hkey, sub, currency, events, -, hmove⟩
    · simp [hfail, hself, Outcome.fail, Except.toOption]
    · -- the key stands for this very change already
      simp only [hreplay, hself, Outcome.ok, Except.toOption, Option.map_some]
      refine ⟨.inl, fun h => h.elim id fun h => ?_⟩
      obtain ⟨rfl, rfl, rfl⟩ := by simpa using h
      rwa [Registry.updated?_of_find? he]
    · simp only [hmove, Outcome.ok, Except.toOption, Option.map_some, Registry.updated?_set]
      by_cases hp : p = q
      · subst hp
        by_cases hk : key = key'
        · subst hk
          simp [Emulator.moved, Registry.updated?_of_find? he, hkey]
        · simp [Emulator.moved, Registry.updated?_of_find? he, hk]
      · simp [hp]

/-- Keys are used up by changes that are granted, and by nothing else. -/
theorem updated?_answer (rules : Rules) (w : World) (c : Call) (p : Provider) (key : String)
    (r : LevelRequest) :
    (w.answer rules c).2.registry.updated? p key = some r ↔
      w.registry.updated? p key = some r ∨ w.granted? c = some (p, key, r) := by
  by_cases hc : c.Changes
  · cases c with
    | updateSubscription => exact updated?_updateSubscription ..
    | _ => exact hc.elim
  · simp [updated?_answer_of_not rules w hc, granted?_of_not w hc]

end World

namespace Course

/-- The changes that processors have granted so far, each with its provider and its key. -/
def granted (s : Course) : List (Provider × String × LevelRequest) :=
  s.past.filterMap fun e => e.1.granted? e.2

theorem granted_after (rules : Rules) (c : Call) (s : Course) :
    (s.after rules c).granted = s.granted ++ (s.world.granted? c).toList := by
  simp only [granted, after, List.filterMap_append, List.filterMap_cons, List.filterMap_nil]
  cases s.world.granted? c <;> rfl

theorem Alike.granted {s s' : Course} (h : s.Alike s') : s'.granted = s.granted := by
  rw [Course.granted, h.past, Course.granted]

/-- The keys of the processors are those of the changes granted so far. -/
def Keyed (s : Course) : Prop :=
  ∀ p key r, s.world.registry.updated? p key = some r ↔ (p, key, r) ∈ s.granted

theorem Keyed.alike {s s' : Course} (h : s.Keyed) (ha : s.Alike s') : s'.Keyed := by
  intro p key r
  rw [ha.world.registry, ha.granted]
  exact h p key r

theorem Keyed.after {s : Course} (h : s.Keyed) (rules : Rules) (c : Call) :
    (s.after rules c).Keyed := by
  intro p key r
  rw [granted_after, List.mem_append, Option.mem_toList]
  exact (s.world.updated?_answer rules c p key r).trans (or_congr_left (h p key r))

end Course

/-! ### One change -/

/-- What has become of a subscription that was asked to be at a level: nothing, if the key stands
for this very change. -/
def Registry.Changed (r : Registry) (p : Provider) (id : String) (choice : LevelChoice)
    (r' : Registry) : Prop :=
  ∃ sub sub', r.subscription? p id = some sub ∧ r'.subscription? p id = some sub' ∧
    if r.updated? p choice.key = some ⟨id, choice.templateId, choice.level⟩ then sub' = sub
    else sub'.level = choice.level

/-- A subscription that is at the level stays as it is. -/
theorem Registry.changed_self {r : Registry} {p : Provider} {id : String} {sub : Subscription}
    {choice : LevelChoice} (hsub : r.subscription? p id = some sub)
    (hlevel : sub.level = choice.level) : r.Changed p id choice r := by
  refine ⟨sub, sub, hsub, hsub, ?_⟩
  split
  · rfl
  · exact hlevel

/-- A change that is answered was carried out, or it had been granted under its key before and moved
nothing now. -/
theorem World.updateSubscription_changed {rules : Rules} {w : World} {p : Provider}
    {sub : Subscription} {choice : LevelChoice} {id : String}
    (hsub : w.registry.subscription? p sub.id = some sub)
    (hid : (w.answer rules
      (.updateSubscription p sub choice.templateId choice.level choice.key)).1 = .ok id) :
    w.registry.Changed p sub.id choice (w.answer rules
      (.updateSubscription p sub choice.templateId choice.level choice.key)).2.registry := by
  rw [updateSubscription_eq] at hid ⊢
  cases he : w.registry.find? p with
  | none =>
    rw [withProcessor_of_none he] at hid
    cases hid
  | some e =>
    rw [withProcessor_of_some he] at hid ⊢
    rw [registry_writeAll]
    rw [Registry.subscription?_of_find? he] at hsub
    rcases e.updateSubscription_cases ⟨sub.id, choice.templateId, choice.level⟩ choice.key with
      ⟨f, hfail⟩ | ⟨hkey, events, hreplay⟩ | ⟨hkey, sub', currency, events, hsub', hmove⟩
    · rw [hfail] at hid
      cases hid
    · refine ⟨sub, sub, by rwa [Registry.subscription?_of_find? he], ?_, ?_⟩
      · rw [hreplay, Registry.subscription?_set, if_pos rfl]
        exact hsub
      · rw [Registry.updated?_of_find? he, if_pos hkey]
    · obtain rfl : sub = sub' := Option.some.inj (hsub.symm.trans hsub')
      refine ⟨sub, { sub with currency, templateId := choice.templateId, level := choice.level },
        by rwa [Registry.subscription?_of_find? he], ?_, ?_⟩
      · rw [hmove, Registry.subscription?_set, if_pos rfl]
        simp [Outcome.ok, Emulator.moved]
      · simp [Registry.updated?_of_find? he, hkey]

/-! ### Operations -/

/-- A call that changes nothing. -/
def Call.Looks : Call → Prop
  | .lookUp .. | .processorOf .. | .subscription .. | .tier .. | .decode .. | .issue .. | .allows ..
  | .expiration .. | .setUp .. => True
  | _ => False

theorem Call.Looks.harmless {c : Call} (h : c.Looks) : c.Harmless := by
  cases c with
  | canceledAt | setCustomer | createSubscription => exact h.elim
  | _ => trivial

theorem World.answer_of_looks (rules : Rules) (w : World) {c : Call} (hc : c.Looks) :
    (w.answer rules c).2 = w := by
  cases c with
  | lookUp | processorOf | subscription | tier | decode | issue | allows | expiration | setUp => rfl
  | _ => exact hc.elim

theorem Tier.level_of {level : Int} {currency : String} {t : Tier}
    (h : Tier.of level currency = .ok t) : t.level = level := by
  unfold Tier.of at h
  split at h
  · obtain rfl := Except.ok.inj h
    rfl
  · cases h

/-- The level read off a subscription is its own. -/
theorem World.tier_level {rules : Rules} {w : World} {p : Provider} {sub : Subscription} {t : Tier}
    (ht : (w.answer rules (.tier p sub)).1 = .ok t) : t.level = sub.level := by
  obtain ⟨e, -, hok⟩ := asking_eq_ok ht
  exact Tier.level_of (mapError_eq_ok hok)

namespace Course

/-- The store and the processors are as they were. -/
structure Still (s s' : Course) : Prop where
  store : s'.world.store = s.world.store
  registry : s'.world.registry = s.world.registry

theorem Still.refl (s : Course) : s.Still s := ⟨rfl, rfl⟩

theorem Still.alike {s s' s'' : Course} (h : s.Still s') (ha : s'.Alike s'') : s.Still s'' :=
  ⟨ha.world.store.trans h.store, ha.world.registry.trans h.registry⟩

theorem Still.after {s s' : Course} (h : s.Still s') (rules : Rules) {c : Call} (hc : c.Looks) :
    s.Still (s'.after rules c) := by
  rw [Course.after, World.answer_of_looks rules s'.world hc]
  exact ⟨h.store, h.registry⟩

/-- What has become of a subscriber that asked for its subscription to be at a level. -/
structure Changed (s : Course) (user : Bytes) (p : Provider) (id : String) (choice : LevelChoice)
    (s' : Course) : Prop where
  registry : s.world.registry.Changed p id choice s'.world.registry
  store : s'.world.store = s.world.store ∨ ∃ r, s'.Reads user r ∧ r.subscriptionId = some id ∧
    r.subscriptionLevel = some choice.level

theorem Changed.alike {s s' s'' : Course} {user : Bytes} {p : Provider} {id : String}
    {choice : LevelChoice} (h : s.Changed user p id choice s') (ha : s'.Alike s'') :
    s.Changed user p id choice s'' where
  registry := by
    rw [ha.world.registry]
    exact h.registry
  store := by
    rw [ha.world.store]
    exact h.store.imp_right fun ⟨r, hr, hid⟩ => ⟨r, hr.alike ha, hid⟩

end Course

namespace Change

open Program

/-- Looking changes nothing. -/
theorem keeps_look {c : Call} (hc : c.Looks) {post : c.Answer → Prop} {s₀ s : Course}
    (hs : s₀.Still s) (h : ∀ s' rules a, s₀.Still s' → (s'.world.answer rules c).1 = .ok a →
      post a) : (ask c).Keeps .serial (onOk fun a s' => s₀.Still s' ∧ post a) s := by
  refine keeps_ask_serial (fun ha hp a he => ⟨(hp a he).1.alike ha, (hp a he).2⟩)
    fun s' ha hsingle rules => ⟨hsingle.after rules hc.harmless, fun a he => ?_⟩
  exact ⟨(hs.alike ha).after rules hc, h s' rules a (hs.alike ha) he⟩

/-- What the processor answers with, the store notes with the level that was asked for. -/
theorem keeps_note (c : Credentials) (p : Provider) (choice : LevelChoice) {id : String}
    {s₀ s : Course} (hs : s.Single)
    (hchanged : s₀.world.registry.Changed p id choice s.world.registry) :
    (persist (ask (.levelChanged c.user c.now choice.level id))).Keeps .serial
      (onOk fun _ s' => s₀.Changed c.user p id choice s') s := by
  have hask : (ask (.levelChanged c.user c.now choice.level id)).Keeps .serial
      (onOk fun _ s' => s₀.Changed c.user p id choice s') s := by
    refine keeps_ask_serial (fun ha hp a he => (hp a he).alike ha) fun s' ha hsingle rules =>
      ⟨hsingle.after rules trivial, fun _ ho => ?_⟩
    have hregistry := World.registry_answer (w := s'.world) rules
      (c := .levelChanged c.user c.now choice.level id) trivial
    refine ⟨by rwa [Course.after, hregistry, ha.world.registry], .inr ?_⟩
    cases hr : s'.world.store.find? c.user with
    | none =>
      have hfail := Store.update_eq_fail hr (·.movedTo id choice.level c.now) fun s _ =>
        ((), Log.Audit.levelChanged c.user id s.subscriptionLevel choice.level
          (some "level_changed"))
      simp [World.answer, World.withStore, Store.levelChanged, hfail, Outcome.fail] at ho
    | some r =>
      refine ⟨r.movedTo id choice.level c.now, ?_, rfl, rfl⟩
      rw [Course.Reads, Course.after, World.answer, World.withStore, World.store_writeAll]
      refine (Store.find?_update_of_some _ _ hr).trans ?_
      rw [if_pos rfl]
  exact keeps_persist_ok hs (fun hm hp => hp.alike hm.rely) hask

/-- A change of level that is answered leaves the subscription and the store changed. -/
theorem keeps_changeLevel (c : Credentials) (p : Provider) (choice : LevelChoice) (id : String)
    {s₀ s : Course} (hsingle : s.Single) (hs : s₀.Still s) :
    (changeLevel c p choice id).Keeps .serial
      (onOk fun _ s' => s₀.Changed c.user p id choice s') s := by
  have hread : (ask (.subscription p id)).Keeps .serial (onOk fun sub s' => s₀.Still s' ∧
      s₀.world.registry.subscription? p id = some sub) s :=
    keeps_look (c := .subscription p id) trivial hs fun s' rules sub hs' hsub => by
      rw [← hs'.registry]
      exact World.subscription?_of_answer hsub
  unfold changeLevel
  refine hread.bind hsingle fun sub s hsingle ⟨hs, hsub⟩ => ?_
  have htier : (ask (.tier p sub)).Keeps .serial (onOk fun t s' => s₀.Still s' ∧
      t.level = sub.level) s :=
    keeps_look (c := .tier p sub) trivial hs fun _ _ _ _ ht => World.tier_level ht
  refine htier.bind hsingle fun current s hsingle ⟨hs, hcurrent⟩ => ?_
  have hwanted : (ofExcept ((Tier.of choice.level choice.currency).mapError .invalid)).Keeps
      .serial (onOk fun (t : Tier) s' => s₀.Still s' ∧ t.level = choice.level) s :=
    fun s' h' t ht => ⟨hs.alike h'.rely, Tier.level_of (mapError_eq_ok ht)⟩
  refine hwanted.bind hsingle fun wanted s hsingle ⟨hs, hwanted⟩ => ?_
  split
  · -- the subscription is as it should be
    rename_i hsame
    intro s' h' _ _
    have hs' := hs.alike h'.rely
    have hlevel : sub.level = choice.level := by rw [← hcurrent, hsame, hwanted]
    refine ⟨?_, .inl hs'.store⟩
    rw [hs'.registry]
    exact Registry.changed_self hsub hlevel
  have hallows : (ask (.allows current.level choice.level)).Keeps .serial
      (onOk fun _ s' => s₀.Still s' ∧ True) s :=
    keeps_look (c := .allows current.level choice.level) trivial hs fun _ _ _ _ _ => trivial
  refine hallows.bind hsingle fun allowed s hsingle ⟨hs, _⟩ => ?_
  split
  · have hmove : (ask (.updateSubscription p sub choice.templateId choice.level choice.key)).Keeps
        .serial (onOk fun updated s' => updated = id ∧
          s₀.world.registry.Changed p id choice s'.world.registry) s := by
      have stable : ∀ {s s' : Course} {updated : String}, s.Alike s' →
          (updated = id ∧ s₀.world.registry.Changed p id choice s.world.registry) →
          updated = id ∧ s₀.world.registry.Changed p id choice s'.world.registry :=
        fun ha hp => ⟨hp.1, ha.world.registry ▸ hp.2⟩
      refine keeps_ask_serial (fun ha hp a he => stable ha (hp a he)) fun s' ha hsingle rules =>
        ⟨hsingle.after rules trivial, fun updated hupdated => ?_⟩
      rw [← (hs.alike ha).registry] at hsub ⊢
      obtain rfl : sub.id = id := Course.id_of_subscription? hsingle.named hsub
      exact ⟨World.updateSubscription_answer hsingle.named rules hupdated,
        World.updateSubscription_changed hsub hupdated⟩
    refine hmove.bind hsingle fun updated s hsingle ⟨hupdated, hchanged⟩ => ?_
    subst hupdated
    exact keeps_note c p choice hsingle hchanged
  · exact keeps_error

/-- A subscriber with a subscription that asks for a level and is answered finds it changed. -/
theorem keeps_readAndUpdateLevel (c : Credentials) (p : Provider) (choice : LevelChoice)
    {r : Subscriber} {id : String} {s : Course} (hsingle : s.Single) (hr : s.Reads c.user r)
    (hid : r.subscriptionId = some id) :
    (Request.readAndUpdateLevel c p choice).program.Keeps .serial
      (onOk fun _ s' => s.Changed c.user p id choice s') s := by
  have hstill : (getSubscriber c).Keeps .serial (fun _ s' => s.Still s') s :=
    keeps_of_uses_serial (fun _ hc => hc.harmless) (fun ha h => h.alike ha)
      (fun rules _ hc _ h => h.after rules hc) (uses_getSubscriber c trivial) (.refl s)
  have hread : (getSubscriber c).Keeps .serial (onOk fun r' s' => s.Still s' ∧ r' = r) s := by
    refine (hstill.and ((Manager.keeps_getSubscriber c hsingle).restrict _)).mono
      fun o s' _ h r' hr' => ⟨h.1, ?_⟩
    have hstored : s.world.store.find? c.user = some r' := by
      rw [← h.1.store]
      exact h.2 r' hr'
    exact Option.some.inj (hstored.symm.trans hr)
  refine hread.bind hsingle fun r' s' hsingle' ⟨hs', hr'⟩ => ?_
  subst hr'
  unfold updateLevel operation
  refine Keeps.within ?_ hsingle' (fun _ _ _ h hp a ha => (hp a ha).alike h.rely) _
  rw [hid]
  exact keeps_changeLevel c p choice id hsingle' hs'

end Change

/-! ### Runs -/

/-- Where no key was used at first, the keys are those of the changes granted. -/
theorem Course.keyed_through {w : World} (hkeys : ∀ p key, w.registry.updated? p key = none)
    (es : List Event) : (Course.through ⟨w, []⟩ es).Keyed := by
  refine forall_through (fun ha h => h.alike ha) (fun rules c _ h => h.after rules c) ?_ es
  intro p key r
  simp [hkeys, granted]

/-- A subscriber with a subscription that asks for a level and is answered has the subscription at
that level exactly if it was there already or the change had not been granted under its key before:
a change that had been granted moves nothing.  Whatever was written to the store notes the
subscription with the level that was asked for. -/
theorem Course.level_eq_iff_of_changed {w : World} (hw : w.Fresh)
    (hkeys : ∀ p key, w.registry.updated? p key = none) {es : List Event}
    (hes : ∀ e ∈ es, e.Fresh) (rules : Rules) (c : Credentials) (p : Provider)
    (choice : LevelChoice) {r : Subscriber} {id : String}
    (hr : (Course.through ⟨w, []⟩ es).Reads c.user r) (hid : r.subscriptionId = some id) :
    let s := Course.through ⟨w, []⟩ es
    let o := s.serve rules (.readAndUpdateLevel c p choice)
    let granted := (p, choice.key, ⟨id, choice.templateId, choice.level⟩) ∈ s.granted
    o.1 = .ok () → ∃ sub sub', s.world.registry.subscription? p id = some sub ∧
      o.2.world.registry.subscription? p id = some sub' ∧
      (sub'.level = choice.level ↔ sub.level = choice.level ∨ ¬granted) ∧
      (granted → sub' = sub) ∧
      (o.2.world.store = s.world.store ∨ ∃ r', o.2.Reads c.user r' ∧
        r'.subscriptionId = some id ∧ r'.subscriptionLevel = some choice.level) := by
  intro s o granted hok
  have hsingle : s.Single := single_through hw hes
  have hkey := keyed_through hkeys es p choice.key ⟨id, choice.templateId, choice.level⟩
  obtain ⟨⟨sub, sub', hsub, hsub', hlevel⟩, hstore⟩ :=
    serve_of_keeps (r := .readAndUpdateLevel c p choice) hsingle rules
      (Change.keeps_readAndUpdateLevel c p choice hsingle hr hid) () hok
  refine ⟨sub, sub', hsub, hsub', ?_⟩
  by_cases hgranted : granted
  · obtain rfl : sub' = sub := by rwa [if_pos (hkey.2 hgranted)] at hlevel
    exact ⟨by simp [hgranted], fun _ => rfl, hstore⟩
  · rw [if_neg (mt hkey.1 hgranted)] at hlevel
    exact ⟨iff_of_true hlevel (.inr hgranted), fun h => absurd h hgranted, hstore⟩

/-- No key was used in a world that was built. -/
theorem World.updated?_of_build {settings : Settings} {providers : List Provider} {clock : Moment}
    {signer : Signer} {w : World} (h : build settings providers clock signer = .ok w)
    (p : Provider) (key : String) : w.registry.updated? p key = none := by
  cases he : w.registry.find? p with
  | none => simp [Registry.updated?, he]
  | some e =>
    obtain ⟨q, rfl⟩ := find?_of_build h he
    rw [Registry.updated?_of_find? he]
    rfl

/-- No key of the shipped processor was used. -/
theorem World.updated?_shipped (p : Provider) (key : String) :
    World.shipped.registry.updated? p key = none := by
  cases p <;> rfl

namespace Sample

/-- The subscriber with a running subscription. -/
def subscribed : Subscriber :=
  { attached with
    subscriptionId := some "emulator_sub_0000000000000002_0"
    subscriptionLevel := some 500
    subscriptionCreatedAt := some .epoch
    levelChangedAt := some .epoch }

/-- The subscriber moves to another level and back. -/
def upAndDown : List Request := subscribe 500 ++ [toLevel 1000 "second", toLevel 500 "third"]

end Sample

open Sample in
/-- A change under a key of its own moves the subscription. -/
theorem Course.level_eq_iff_of_changed_once :
    let s := Course.through ⟨.shipped, []⟩ (served (Sample.subscribe 500))
    let o := s.serve rules (.readAndUpdateLevel credentials .stripe (choice 1000 "second"))
    let granted := (Provider.stripe, "second", ⟨"emulator_sub_0000000000000002_0",
      "price_donation_1000_usd", 1000⟩) ∈ s.granted
    (∀ e ∈ served (Sample.subscribe 500), e.Fresh) ∧ s.Reads credentials.user subscribed ∧
      o.1 = .ok () ∧ ¬granted ∧
      ∃ sub sub', s.world.registry.subscription? .stripe "emulator_sub_0000000000000002_0" =
          some sub ∧
        o.2.world.registry.subscription? .stripe "emulator_sub_0000000000000002_0" = some sub' ∧
        (sub'.level = 1000 ↔ sub.level = 1000 ∨ ¬granted) ∧ (granted → sub' = sub) ∧
        (o.2.world.store = s.world.store ∨ ∃ r', o.2.Reads credentials.user r' ∧
          r'.subscriptionId = some "emulator_sub_0000000000000002_0" ∧
          r'.subscriptionLevel = some 1000) := by
  intro s o granted
  have hes : ∀ e ∈ served (Sample.subscribe 500), e.Fresh := by decide
  have hr : s.world.store.find? credentials.user = some subscribed := by decide +kernel
  have hok : o.1 = .ok () := eq_ok_of_isOk (by decide +kernel)
  have hnew : ¬granted := by decide +kernel
  refine ⟨hes, hr, hok, hnew, ?_⟩
  dsimp only [s, o, granted] at hr hok ⊢
  exact level_eq_iff_of_changed World.fresh_shipped World.updated?_shipped hes rules credentials
    .stripe (choice 1000 "second") hr rfl hok

open Sample in
/-- Asked for again under its old key after the subscription was moved back, a change is noted but
not made. -/
theorem Course.level_ne_of_changed_back :
    let s := Course.through ⟨.shipped, []⟩ (served upAndDown)
    let o := s.serve rules (.readAndUpdateLevel credentials .stripe (choice 1000 "second"))
    (∀ e ∈ served upAndDown, e.Fresh) ∧ s.Reads credentials.user subscribed ∧ o.1 = .ok () ∧
      ∃ r sub, o.2.Reads credentials.user r ∧
        r.subscriptionId = some "emulator_sub_0000000000000002_0" ∧
        r.subscriptionLevel = some 1000 ∧
        o.2.world.registry.subscription? .stripe "emulator_sub_0000000000000002_0" = some sub ∧
        sub.level = 500 := by
  intro s o
  have hes : ∀ e ∈ served upAndDown, e.Fresh := by decide
  have hr : s.world.store.find? credentials.user = some subscribed := by decide +kernel
  have hok : o.1 = .ok () := eq_ok_of_isOk (by decide +kernel)
  have hstored : o.2.world.store.find? credentials.user =
      some { subscribed with subscriptionLevel := some 1000 } := by decide +kernel
  have hremote : (o.2.world.registry.subscription? .stripe "emulator_sub_0000000000000002_0").map
      (·.level) = some 500 := by decide +kernel
  obtain ⟨sub, hsub, hlevel⟩ := Option.map_eq_some_iff.1 hremote
  exact ⟨hes, hr, hok, _, sub, hstored, rfl, rfl, hsub, hlevel⟩

end Patronage
