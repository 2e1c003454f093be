import Patronage.Proofs.Naming
/-!
# Where the store and the processors agree

A level is changed at the processor first and noted in the store then, and a subscriber is canceled
in the same order.  Between the two, other requests write to either side.  A run leaves a list of
`Write`s, and what both sides hold in the end is what these leave one after the other; nothing ties
a write to the store to the write at the processor that it follows.  Main statements:

* `Course.levelOf_after`, `Course.noted_after` — what one call does to either side;
* `System.agrees_iff` — both sides agree exactly if the writes of the run leave them so;
* `System.agrees_of_matches` — they do if the last write at the processor and the last write to the
  store match.
-/

namespace Patronage

open Manager

/-- A write that concerns the subscription of a subscriber. -/
inductive Write
  /-- At the processor a subscription was made at a level or moved to it. -/
  | set (id : String) (level : Int)
  /-- At the processor everything that ran was canceled. -/
  | stop
  /-- The store noted a subscription and its level. -/
  | note (id : String) (level : Int)
  /-- The store dropped the subscription. -/
  | drop
deriving DecidableEq, Repr

namespace Write

/-- The level that a write leaves to a running subscription. -/
def level (id : String) (found : Option Int) : Write → Option Int
  | .set id' level => if id' = id then some level else found
  | .stop => none
  | .note .. | .drop => found

/-- The subscription and the level that a write leaves noted. -/
def noted (found : Option (String × Option Int)) : Write → Option (String × Option Int)
  | .set .. | .stop => found
  | .note id level => some (id, some level)
  | .drop => none

/-- A write at the processor. -/
def isRemote : Write → Bool
  | .set .. | .stop => true
  | .note .. | .drop => false

/-- A write at the processor and the write to the store that a request makes after it. -/
inductive Matches : Write → Write → Prop
  | level (id : String) (level : Int) : Matches (.set id level) (.note id level)
  | stop : Matches .stop .drop

variable {ws : List Write} {w : Write}

/-- Only the last write at the processor counts there. -/
theorem foldl_level (h : (ws.filter isRemote).getLast? = some w) (id : String)
    (found : Option Int) : ∃ found', ws.foldl (level id) found = level id found' w := by
  have hfilter : ws.foldl (level id) found = (ws.filter isRemote).foldl (level id) found := by
    rw [List.foldl_filter]
    congr 1
    funext found w
    cases w <;> rfl
  obtain ⟨earlier, he⟩ := List.getLast?_eq_some_iff.1 h
  exact ⟨_, by rw [hfilter, he, List.foldl_append]; rfl⟩

/-- Only the last write to the store counts there. -/
theorem foldl_noted (h : (ws.filter (!isRemote ·)).getLast? = some w)
    (found : Option (String × Option Int)) :
    ∃ found', ws.foldl noted found = noted found' w := by
  have hfilter : ws.foldl noted found = (ws.filter (!isRemote ·)).foldl noted found := by
    rw [List.foldl_filter]
    congr 1
    funext found w
    cases w <;> rfl
  obtain ⟨earlier, he⟩ := List.getLast?_eq_some_iff.1 h
  exact ⟨_, by rw [hfilter, he, List.foldl_append]; rfl⟩

end Write

/-- What is noted is what runs. -/
def Agree (noted : Option (String × Option Int)) (level : String → Option Int) : Prop :=
  match noted with
  | none => ∀ id, level id = none
  | some (id, found) => ∃ l, found = some l ∧ level id = some l

/-- Writes leave agreement behind if the last one at the processor and the last one to the store
match. -/
theorem Agree.of_matches {ws : List Write} {remote stored : Write}
    (hr : (ws.filter Write.isRemote).getLast? = some remote)
    (hs : (ws.filter (!Write.isRemote ·)).getLast? = some stored) (h : remote.Matches stored)
    (noted : Option (String × Option Int)) (level : String → Option Int) :
    Agree (ws.foldl Write.noted noted) fun id => ws.foldl (Write.level id) (level id) := by
  obtain ⟨_, hnoted⟩ := Write.foldl_noted hs noted
  rw [hnoted]
  cases h with
  | level id l =>
    obtain ⟨_, hlevel⟩ := Write.foldl_level hr id (level id)
    exact ⟨l, rfl, hlevel.trans (if_pos rfl)⟩
  | stop =>
    intro id
    obtain ⟨_, hlevel⟩ := Write.foldl_level hr id (level id)
    exact hlevel

/-! ### Both sides -/

namespace Subscription

/-- The level of a subscription if it is a running one of a customer. -/
def levelFor (s : Subscription) (customerId : String) : Option Int :=
  if s.isActiveOf customerId then some s.level else none

theorem levelFor_of_ne {s : Subscription} {customerId : String} (h : s.customerId ≠ customerId) :
    s.levelFor customerId = none :=
  if_neg fun ha => h (isActiveOf_iff.1 ha).1

@[simp] theorem levelFor_cancel (s : Subscription) (now : Moment) (customerId : String) :
    (s.cancel now).levelFor customerId = none :=
  if_neg fun ha => by cases (isActiveOf_iff.1 ha).2

end Subscription

/-- The level of a running subscription of a customer. -/
def Emulator.levelOf (e : Emulator) (customerId id : String) : Option Int :=
  (e.subscriptions.get? id).bind (·.levelFor customerId)

/-- Whether a request moves a running subscription of a customer. -/
def Emulator.moves (e : Emulator) (customerId : String) (r : LevelRequest) (key : String) : Bool :=
  (e.updatedByKey.get? key).isNone && (e.levelOf customerId r.subscriptionId).isSome &&
    (e.templates.get? r.templateId).isSome

namespace Registry

/-- The level of a running subscription of a customer. -/
def levelOf (r : Registry) (c : Customer) (id : String) : Option Int :=
  (r.find? c.provider).bind (·.levelOf c.id id)

@[simp] theorem levelOf_set (r : Registry) (p : Provider) (e : Emulator) (c : Customer)
    (id : String) :
    (r.set p e).levelOf c id = if p = c.provider then e.levelOf c.id id else r.levelOf c id := by
  unfold levelOf
  rw [find?_set]
  split <;> rfl

theorem levelOf_of_find? {r : Registry} {c : Customer} {e : Emulator}
    (h : r.find? c.provider = some e) (id : String) : r.levelOf c id = e.levelOf c.id id := by
  simp [levelOf, h]

end Registry

/-- The subscription of a subscriber and its level. -/
def Subscriber.noted (s : Subscriber) : Option (String × Option Int) :=
  s.subscriptionId.map fun id => (id, s.subscriptionLevel)

namespace Store

/-- The subscription of a subscriber and its level as the store has them. -/
def noted (store : Store) (user : Bytes) : Option (String × Option Int) :=
  (store.find? user).bind Subscriber.noted

theorem noted_update {α : Type} (store : Store) (u user : Bytes)
    (change : Subscriber → Subscriber) (report : Subscriber → Subscriber → α × Log.Entry) :
    (store.update u change report).state.noted user =
      if u = user then (store.find? user).bind fun s => (change s).noted
      else store.noted user := by
  unfold noted
  rw [get?_update]
  split
  · cases store.find? user <;> rfl
  · rfl

theorem noted_update_of_eq {α : Type} (store : Store) (u user : Bytes)
    {change : Subscriber → Subscriber} (h : ∀ s, (change s).noted = s.noted)
    (report : Subscriber → Subscriber → α × Log.Entry) :
    (store.update u change report).state.noted user = store.noted user := by
  rw [noted_update, noted]
  simp only [h]
  split <;> rfl

/-- A change that writes something leaves that noted if it finds the subscriber. -/
theorem noted_update_of_write {α : Type} (store : Store) (u user : Bytes) (w : Write)
    {change : Subscriber → Subscriber} (h : ∀ s found, (change s).noted = w.noted found)
    (report : Subscriber → Subscriber → α × Log.Entry) :
    (store.update u change report).state.noted user =
      (if u = user ∧ (store.find? u).isSome then some w else none).toList.foldl Write.noted
        (store.noted user) := by
  rw [noted_update]
  by_cases hu : u = user
  · subst hu
    cases hs : store.find? u with
    | none => simp [noted, hs]
    | some s => simp [h s (store.noted u)]
  · simp [hu]

theorem noted_create (store : Store) (u user password : Bytes) (now : Moment) :
    (store.create u password now).state.noted user = store.noted user := by
  unfold create
  cases hs : store.find? u with
  | some s => dsimp only; split <;> rfl
  | none =>
    by_cases hu : u = user
    · subst hu
      have hnone : store.noted u = none := by rw [noted, hs]; rfl
      rw [hnone]
      simp [noted, Outcome.ok, find?, Subscriber.noted, Subscriber.new]
    · simp [Outcome.ok, noted, find?, hu]

end Store

namespace World

/-- The subscription of a subscriber and its level as the store has them. -/
def noted (w : World) (user : Bytes) : Option (String × Option Int) := w.store.noted user

/-- The customer of a subscriber as the store has it. -/
def customer? (w : World) (user : Bytes) : Option Customer := (w.store.find? user).bind (·.customer)

/-- What the store notes of a subscriber is what runs for its customer. -/
def Agrees (w : World) (user : Bytes) : Prop :=
  Agree (w.noted user) fun id => (w.customer? user).bind (w.registry.levelOf · id)

theorem agrees_iff_agree {w : World} {user : Bytes} {c : Customer} (h : w.customer? user = some c) :
    w.Agrees user ↔ Agree (w.noted user) (w.registry.levelOf c) := by
  unfold Agrees
  rw [h]
  rfl

/-- What a call writes of the subscription of a subscriber and of its customer. -/
def write? (w : World) (user : Bytes) (c : Customer) : Call → Option Write
  | .createSubscription p customerId templateId level last =>
    if p = c.provider ∧ customerId = c.id then
      (w.drawn? (.createSubscription p customerId templateId level last)).map (.set · level)
    else none
  | .updateSubscription p s templateId level key =>
    if p = c.provider ∧ (w.registry.find? p).any (·.moves c.id ⟨s.id, templateId, level⟩ key) then
      some (.set s.id level)
    else none
  | .cancelAll p customerId =>
    if p = c.provider ∧ customerId = c.id ∧ (w.registry.customer? p customerId).isSome then
      some .stop
    else none
  | .subscriptionCreated u id _ level =>
    if u = user ∧ (w.store.find? u).isSome then some (.note id level) else none
  | .levelChanged u _ level id =>
    if u = user ∧ (w.store.find? u).isSome then some (.note id level) else none
  | .canceledAt u _ => if u = user ∧ (w.store.find? u).isSome then some .drop else none
  | _ => none

end World

/-- A call that may change the level of what runs. -/
def Call.SetsLevels : Call → Prop
  | .createSubscription .. | .updateSubscription .. | .cancelAll .. => True
  | _ => False

namespace Emulator

variable {m : Mint} {p : Provider} {e : Emulator} {ids : List String}

theorem levelOf_congr {e e' : Emulator} {id : String}
    (h : Option.Rel (fun s s' => s'.customerId = s.customerId ∧ s'.status = s.status ∧
      s'.level = s.level) (e.subscriptions.get? id) (e'.subscriptions.get? id))
    (customerId : String) : e'.levelOf customerId id = e.levelOf customerId id := by
  unfold levelOf
  generalize e.subscriptions.get? id = o at h
  generalize e'.subscriptions.get? id = o' at h
  cases h with
  | none => rfl
  | some h =>
    obtain ⟨hc, hs, hl⟩ := h
    simp [Subscription.levelFor, Subscription.isActiveOf, hc, hs, hl]

/-- Calls about customers and payments leave every level as it is. -/
theorem Shift.levelOf {c : Call} {s : Emulator × TokenSource} {d : Option String}
    (h : e.Shift m p c s d) (hn : e.Named ids) (hcall : ¬c.SetsLevels) (customerId id : String) :
    s.1.levelOf customerId id = e.levelOf customerId id := by
  obtain ⟨_, _, _, _, _, rfl, _⟩ | hrel := h.subscription hn id
  · exact absurd trivial hcall
  · refine levelOf_congr ?_ customerId
    generalize e.subscriptions.get? id = o at hrel
    generalize s.1.subscriptions.get? id = o' at hrel
    cases hrel with
    | none => exact .none
    | some hs =>
      refine .some ?_
      cases hs with
      | same | billed => exact ⟨rfl, rfl, rfl⟩
      | moved _ _ _ _ _ hc => subst hc; exact absurd trivial hcall
      | closed _ hc => subst hc; exact absurd trivial hcall

theorem levelOf_withSubscription (s : Subscription) (last : Int) (customerId id : String) :
    (e.withSubscription s last).levelOf customerId id =
      if s.id = id then s.levelFor customerId else e.levelOf customerId id := by
  unfold Emulator.levelOf withSubscription
  by_cases h : s.id = id <;> simp [h]

theorem levelOf_cancelAll (now : Moment) (customerId customerId' id : String) :
    (e.cancelAll now customerId).state.levelOf customerId' id =
      if (e.customers.get? customerId).isSome ∧ customerId = customerId' then none
      else e.levelOf customerId' id := by
  unfold cancelAll Emulator.customer
  cases hc : e.customers.get? customerId with
  | none => simp [Outcome.fail]
  | some c =>
    simp only [Option.elim_some, Outcome.ok, Emulator.levelOf, Assoc.get?_mapValues,
      Option.isSome_some, true_and]
    cases e.subscriptions.get? id with
    | none => simp
    | some s =>
      show Subscription.levelFor (if s.isActiveOf customerId then s.cancel now else s) customerId' =
        if customerId = customerId' then none else s.levelFor customerId'
      -- what is canceled ran for this customer and for no other one
      by_cases ha : s.isActiveOf customerId
      · rw [if_pos ha, Subscription.levelFor_cancel]
        split
        · rfl
        · rename_i hne
          rw [Subscription.levelFor_of_ne]
          rwa [(Subscription.isActiveOf_iff.1 ha).1]
      · rw [if_neg ha]
        split
        · rename_i heq
          rw [← heq, Subscription.levelFor, if_neg ha]
        · rfl

/-- What does not run is nobody's running subscription. -/
theorem levelOf_of_activeSubscription {id : String} {f : Fault}
    (h : e.activeSubscription id = .error f) (customerId : String) :
    e.levelOf customerId id = none := by
  unfold Emulator.levelOf
  cases hs : e.subscriptions.get? id with
  | none => rfl
  | some s =>
    refine if_neg fun ha => ?_
    rw [activeSubscription_eq_ok.2 ⟨hs, (Subscription.isActiveOf_iff.1 ha).2⟩] at h
    cases h

theorem levelOf_moved {r : LevelRequest} {s : Subscription}
    (hs : e.subscriptions.get? r.subscriptionId = some s) (hid : s.id = r.subscriptionId)
    (currency key customerId id : String) :
    (e.moved s r currency key).levelOf customerId id =
      if (e.levelOf customerId r.subscriptionId).isSome ∧ r.subscriptionId = id then some r.level
      else e.levelOf customerId id := by
  by_cases h : r.subscriptionId = id
  · subst h
    simp only [Emulator.levelOf, moved, hid, Assoc.get?_insert, if_pos, hs, Option.bind_some,
      and_true]
    show (if s.isActiveOf customerId then some r.level else none) = _
    unfold Subscription.levelFor
    by_cases ha : s.isActiveOf customerId <;> simp [ha]
  · simp [Emulator.levelOf, moved, hid, h]

theorem levelOf_updateSubscription (hn : e.Named ids) (r : LevelRequest) (key : String)
    (customerId id : String) :
    (e.updateSubscription r key).state.levelOf customerId id =
      if e.moves customerId r key ∧ r.subscriptionId = id then some r.level
      else e.levelOf customerId id := by
  unfold updateSubscription moves
  cases hkey : e.updatedByKey.get? key with
  | some previous => dsimp only; split <;> simp [Outcome.ok, Outcome.fail]
  | none =>
    dsimp only [moveLevel]
    cases hs : e.activeSubscription r.subscriptionId with
    | error f =>
      simp [Outcome.fail, levelOf_of_activeSubscription hs]
    | ok s =>
      obtain ⟨hs', -⟩ := activeSubscription_eq_ok.1 hs
      cases ht : e.templates.get? r.templateId with
      | none => simp [currencyOf, ht, Outcome.fail]
      | some currency =>
        simpa [currencyOf, ht, Outcome.ok, moved] using
          levelOf_moved hs' (hn.subscription hs').1 currency key customerId id

end Emulator

/-! ### One call -/

theorem foldl_toList_of_forall {α β : Type} {f : β → α → β} {b : β} {o : Option α}
    (h : ∀ a, o = some a → f b a = b) : o.toList.foldl f b = b := by
  cases o with
  | none => rfl
  | some a => exact h a rfl

namespace Course

variable {s : Course}

theorem levelOf_after_createSubscription (h : s.Named) (rules : Rules) (p : Provider)
    (customerId templateId : String) (level last : Int)
    (hids : (s.drawn ++
      (s.world.drawn? (.createSubscription p customerId templateId level last)).toList).Nodup)
    (c : Customer) (id : String) :
    (s.after rules (.createSubscription p customerId templateId level last)).world.registry.levelOf
        c id =
      (if p = c.provider ∧ customerId = c.id then
        (s.world.drawn? (.createSubscription p customerId templateId level last)).map (.set · level)
      else none).toList.foldl (Write.level id) (s.world.registry.levelOf c id) := by
  cases s.world.shift_answer rules (.createSubscription p customerId templateId level last) with
  | same registry drawn => rw [after, registry, drawn]; simp
  | «at» q e e' t find shift registry =>
    rw [after, registry]
    generalize s.world.drawn? _ = d at shift hids ⊢
    cases shift with
    | same => rw [Registry.levelOf, Registry.find?_set_self find, Registry.levelOf]; simp
    | opened _ _ _ _ currency known new =>
      -- nothing was filed under the new identifier
      have hnew : e.levelOf c.id (s.world.mint.identifier e.idLead .subscription) = none := by
        cases hs : e.subscriptions.get? (s.world.mint.identifier e.idLead .subscription) with
        | none => simp [Emulator.levelOf, hs]
        | some sub =>
          have hmem := ((h find).subscription hs).2
          exact absurd rfl ((List.nodup_append.1 hids).2.2 _ hmem _ (by simp))
      rw [Registry.levelOf_set, Emulator.levelOf_withSubscription]
      by_cases hp : p = c.provider
      · subst hp
        rw [Registry.levelOf_of_find? find]
        by_cases hc : customerId = c.id
        · simp [hc, Subscription.levelFor, Subscription.isActiveOf, Write.level]
        · rw [if_pos rfl, Subscription.levelFor_of_ne hc]
          split
          · rename_i hid
            rw [← hid]
            simp [hc, hnew]
          · simp [hc]
      · simp [hp]

/-- Other calls leave every level as it is. -/
theorem levelOf_after_of_not (h : s.Named) (rules : Rules) {call : Call}
    (hcall : ¬call.SetsLevels) (c : Customer) (id : String) :
    (s.after rules call).world.registry.levelOf c id = s.world.registry.levelOf c id := by
  cases s.world.shift_answer rules call with
  | same registry => rw [after, registry]
  | «at» p e e' t find shift registry =>
    rw [after, registry, Registry.levelOf_set]
    split
    · rename_i hp
      subst hp
      rw [Registry.levelOf_of_find? find]
      exact shift.levelOf (h find) hcall c.id id
    · rfl

theorem levelOf_after_updateSubscription (h : s.Named) (rules : Rules) (p : Provider)
    (read : Subscription) (templateId : String) (level : Int) (key : String) (user : Bytes)
    (c : Customer) (id : String) :
    (s.after rules (.updateSubscription p read templateId level key)).world.registry.levelOf c id =
      (s.world.write? user c (.updateSubscription p read templateId level key)).toList.foldl
        (Write.level id) (s.world.registry.levelOf c id) := by
  have hw : s.world.answer rules (.updateSubscription p read templateId level key) =
    s.world.withProcessor p fun e => e.updateSubscription ⟨read.id, templateId, level⟩ key := rfl
  rw [after, hw]
  cases he : s.world.registry.find? p with
  | none =>
    rw [World.withProcessor_of_none he]
    simp [World.write?, he]
  | some e =>
    rw [World.withProcessor_of_some he, World.registry_writeAll, Registry.levelOf_set,
      Emulator.levelOf_updateSubscription (h he)]
    by_cases hp : p = c.provider
    · subst hp
      rw [Registry.levelOf_of_find? he]
      by_cases hm : e.moves c.id ⟨read.id, templateId, level⟩ key <;>
        simp [World.write?, he, hm, Write.level]
    · simp [World.write?, hp]

theorem levelOf_after_cancelAll (rules : Rules) (p : Provider) (customerId : String) (user : Bytes)
    (c : Customer) (id : String) :
    (s.after rules (.cancelAll p customerId)).world.registry.levelOf c id =
      (s.world.write? user c (.cancelAll p customerId)).toList.foldl (Write.level id)
        (s.world.registry.levelOf c id) := by
  have hw : s.world.answer rules (.cancelAll p customerId) =
    s.world.withProcessor p fun e => e.cancelAll s.world.clock customerId := rfl
  rw [after, hw]
  cases he : s.world.registry.find? p with
  | none =>
    rw [World.withProcessor_of_none he]
    simp [World.write?, Registry.customer?, he]
  | some e =>
    rw [World.withProcessor_of_some he, World.registry_writeAll, Registry.levelOf_set,
      Emulator.levelOf_cancelAll]
    by_cases hp : p = c.provider
    · subst hp
      rw [Registry.levelOf_of_find? he]
      by_cases hc : customerId = c.id
      · subst hc
        cases hk : e.customers.get? c.id <;>
          simp [World.write?, Registry.customer?, he, hk, Write.level]
      · simp [World.write?, hc]
    · simp [World.write?, hp]

/-- What one call does at the processors. -/
theorem levelOf_after (h : s.Named) (rules : Rules) (call : Call)
    (hids : (s.after rules call).drawn.Nodup) (user : Bytes) (c : Customer) (id : String) :
    (s.after rules call).world.registry.levelOf c id =
      (s.world.write? user c call).toList.foldl (Write.level id)
        (s.world.registry.levelOf c id) := by
  by_cases hcall : call.SetsLevels
  · cases call with
    | createSubscription p customerId templateId level last =>
      rw [drawn_after] at hids
      exact levelOf_after_createSubscription h rules p customerId templateId level last hids c id
    | updateSubscription p read templateId level key =>
      exact levelOf_after_updateSubscription h rules p read templateId level key user c id
    | cancelAll p customerId => exact levelOf_after_cancelAll rules p customerId user c id
    | _ => exact hcall.elim
  · rw [levelOf_after_of_not h rules hcall]
    refine (foldl_toList_of_forall fun wr hwr => ?_).symm
    cases call with
    | createSubscription | updateSubscription | cancelAll => exact absurd trivial hcall
    | canceledAt | subscriptionCreated | levelChanged =>
      rw [World.write?] at hwr
      split at hwr <;> cases hwr
      rfl
    | _ => cases hwr

theorem noted_after_store {α : Type} {rules : Rules} {call : Call} (o : Outcome Store α)
    (h : (s.world.answer rules call).2 = (s.world.withStore o).2) (user : Bytes) :
    (s.after rules call).world.noted user = o.state.noted user := by
  simp [World.noted, after, h, World.withStore]

/-- What one call does in the store. -/
theorem noted_after (rules : Rules) (call : Call) (user : Bytes) (c : Customer) :
    (s.after rules call).world.noted user =
      (s.world.write? user c call).toList.foldl Write.noted (s.world.noted user) := by
  by_cases hcall : call.Stores
  · cases call with
    | create u password now =>
      exact (noted_after_store _ rfl user).trans (Store.noted_create _ u user password now)
    | accessedAt u now =>
      have h : ∀ sub : Subscriber, (sub.accessed now).noted = sub.noted := fun _ => rfl
      exact (noted_after_store _ rfl user).trans (Store.noted_update_of_eq _ u user h _)
    | setCustomer u customer now =>
      refine (noted_after_store _ rfl user).trans
        (Store.noted_update_of_eq _ u user (fun sub => ?_) _)
      unfold Subscriber.withCustomer
      split <;> rfl
    | canceledAt u now =>
      exact (noted_after_store _ rfl user).trans
        (Store.noted_update_of_write _ u user .drop (fun _ _ => rfl) _)
    | subscriptionCreated u id now level =>
      exact (noted_after_store _ rfl user).trans
        (Store.noted_update_of_write _ u user (.note id level) (fun _ _ => rfl) _)
    | levelChanged u now level id =>
      exact (noted_after_store _ rfl user).trans
        (Store.noted_update_of_write _ u user (.note id level) (fun _ _ => rfl) _)
    | _ => exact hcall.elim
  · -- calls to the processors write levels only
    have hnoted : (s.after rules call).world.noted user = s.world.noted user := by
      rw [World.noted, World.noted, Course.after, World.store_answer rules hcall]
    rw [hnoted]
    refine (foldl_toList_of_forall fun wr hwr => ?_).symm
    cases call with
    | create | accessedAt | canceledAt | setCustomer | subscriptionCreated | levelChanged =>
      exact absurd trivial hcall
    | createSubscription =>
      rw [World.write?] at hwr
      split at hwr
      · obtain ⟨_, -, rfl⟩ := Option.map_eq_some_iff.1 hwr; rfl
      · cases hwr
    | updateSubscription | cancelAll =>
      rw [World.write?] at hwr
      split at hwr <;> cases hwr
      rfl
    | _ => cases hwr

/-- What the calls between two courses wrote. -/
def writesSince (s₀ s : Course) (user : Bytes) (c : Customer) : List Write :=
  (s.past.drop s₀.past.length).filterMap fun e => e.1.write? user c e.2

theorem writesSince_of_past {s s' : Course} {new : List (World × Call)}
    (h : s'.past = s.past ++ new) (user : Bytes) (c : Customer) :
    s.writesSince s' user c = new.filterMap fun e => e.1.write? user c e.2 := by
  simp [writesSince, h]

/-- What both sides hold later is what was written to what they held. -/
structure Leaves (s s' : Course) : Prop where
  past : s.past <+: s'.past
  levelOf : s'.drawn.Nodup → ∀ user c id, s'.world.registry.levelOf c id =
    (s.writesSince s' user c).foldl (Write.level id) (s.world.registry.levelOf c id)
  noted : ∀ user c, s'.world.noted user =
    (s.writesSince s' user c).foldl Write.noted (s.world.noted user)

theorem Leaves.alike {s s' : Course} (h : s.Alike s') : s.Leaves s' := by
  have hw : ∀ user c, s.writesSince s' user c = [] := fun user c =>
    writesSince_of_past (h.past.trans (List.append_nil _).symm) user c
  refine ⟨h.past ▸ List.prefix_rfl, fun _ user c id => ?_, fun user c => ?_⟩
  · rw [hw, h.world.registry]; rfl
  · rw [hw, World.noted, h.world.store]; rfl

theorem Leaves.trans {s s' s'' : Course} (h : s.Leaves s') (h' : s'.Leaves s'') :
    s.Leaves s'' := by
  obtain ⟨new, hnew⟩ := h.past
  obtain ⟨new', hnew'⟩ := h'.past
  have hw : ∀ user c, s.writesSince s'' user c =
      s.writesSince s' user c ++ s'.writesSince s'' user c := by
    intro user c
    rw [writesSince_of_past hnew.symm, writesSince_of_past hnew'.symm, ← List.filterMap_append]
    exact writesSince_of_past (by rw [← hnew', ← hnew, List.append_assoc]) user c
  -- what was written until the middle is written to first
  refine ⟨h.past.trans h'.past, fun hids user c id => ?_, fun user c => ?_⟩
  · have hids' : s'.drawn.Nodup := nodup_mono h'.past hids
    rw [hw, List.foldl_append, ← h.levelOf hids', ← h'.levelOf hids]
  · rw [hw, List.foldl_append, ← h.noted, ← h'.noted]

/-- Every call leaves what it writes. -/
theorem leaves_after (h : s.Named) (rules : Rules) (call : Call) :
    s.Leaves (s.after rules call) := by
  have hw : ∀ user c, s.writesSince (s.after rules call) user c =
      (s.world.write? user c call).toList := by
    intro user c
    have hpast : (s.after rules call).past = s.past ++ [(s.world, call)] := rfl
    rw [writesSince_of_past hpast]
    cases hwr : s.world.write? user c call <;> simp [hwr]
  refine ⟨List.prefix_append _ _, fun hids user c id => ?_, fun user c => ?_⟩
  · rw [hw]
    exact levelOf_after h rules call hids user c id
  · rw [hw]
    exact noted_after rules call user c

end Course

/-- Both sides hold what calls wrote. -/
def Discipline.writing : Discipline (Rules × Luck) where
  service := .inMemory
  inv := Course.Named
  rely := Course.Leaves
  keep := Course.Leaves
  refl s := .alike (.refl s)
  trans := .trans
  alike := .alike
  inv_alike ha h := Course.Named.alike h ha

theorem Discipline.lenient_writing : Discipline.writing.Lenient := by
  intro i c s hs
  obtain h | h := s.ask_eq_or i.1 i.2 c
  · exact h.symm ▸ ⟨.alike (.refl s), hs⟩
  · exact h.symm ▸ ⟨Course.leaves_after hs _ c, Course.named_after hs _ c⟩

namespace System

/-- Whatever requests arrive and however they take turns, both sides hold what was written. -/
theorem leaves_play {w : World} (hw : w.Fresh) (before moves : List (Move (Rules × Luck))) :
    ((start w).play .inMemory before).course.Leaves
      (((start w).play .inMemory before).play .inMemory moves).course := by
  have hstart : (start w).Disciplined Discipline.writing (fun _ _ _ => True) :=
    ⟨hw.named, fun _ ht => absurd ht List.not_mem_nil⟩
  have keeps : ∀ {s : Course} (r : Request), r.program.Keeps Discipline.writing
      (fun _ _ => True) s := fun r => Discipline.lenient_writing.keeps r.program _
  have hbefore : ((start w).play .inMemory before).Disciplined Discipline.writing
      (fun _ _ _ => True) := (hstart.play id fun r _ _ _ => keeps r).2
  exact (hbefore.play id fun r _ _ _ => keeps r).1

/-- Both sides agree on a subscriber after a run exactly if the writes of the run, one after the
other, leave what is noted and what runs in agreement. -/
theorem agrees_iff {w : World} (hw : w.Fresh) (before moves : List (Move (Rules × Luck))) :
    let s₀ := ((start w).play .inMemory before).course
    let s := (((start w).play .inMemory before).play .inMemory moves).course
    s.drawn.Nodup → ∀ user c, s.world.customer? user = some c →
      (s.world.Agrees user ↔
        Agree ((s₀.writesSince s user c).foldl Write.noted (s₀.world.noted user))
          fun id => (s₀.writesSince s user c).foldl (Write.level id)
            (s₀.world.registry.levelOf c id)) := by
  intro s₀ s hids user c hc
  have h : s₀.Leaves s := leaves_play hw before moves
  rw [World.agrees_iff_agree hc, h.noted user c, funext (h.levelOf hids user c)]

end System

namespace Sample

/-- The subscriber moves to a level. -/
def change : List (Move (Rules × Luck)) :=
  .arrive (toLevelAt 1 1000 "second") :: List.replicate 32 (.advance 3 asShipped)

/-- The subscriber moves to a level and to another one; what was changed at the processor first is
noted in the store last. -/
def crossing : List (Move (Rules × Luck)) :=
  [.arrive (toLevelAt 1 1000 "second"), .arrive (toLevelAt 2 2000 "third")] ++
    List.replicate 8 (.advance 3 asShipped) ++ List.replicate 32 (.advance 4 asShipped) ++
    List.replicate 32 (.advance 3 asShipped)

/-- The customer of the subscriber. -/
def customer : Customer := ⟨"emulator_cus_0000000000000001_0", .stripe⟩

/-- The subscription of the subscriber. -/
def subscriptionId : String := "emulator_sub_0000000000000002_0"

end Sample

namespace System

open Sample

/-- Both sides agree after a change of level that nothing crosses. -/
theorem agrees_iff_of_change :
    let s₀ := ((start .shipped).play .inMemory (oneByOne asShipped (subscribe 500))).course
    let s := (((start .shipped).play .inMemory (oneByOne asShipped (subscribe 500))).play .inMemory
      change).course
    s.drawn.Nodup ∧ s.world.customer? credentials.user = some customer ∧
      s₀.writesSince s credentials.user customer =
        [.set subscriptionId 1000, .note subscriptionId 1000] ∧
      (s.world.Agrees credentials.user ↔
        Agree (some (subscriptionId, some 1000)) fun id =>
          if subscriptionId = id then some 1000 else s₀.world.registry.levelOf customer id) := by
  intro s₀ s
  have hids : s.drawn.Nodup := by decide +kernel
  have hc : s.world.customer? credentials.user = some customer := by decide +kernel
  have hw : s₀.writesSince s credentials.user customer =
      [.set subscriptionId 1000, .note subscriptionId 1000] := by decide +kernel
  refine ⟨hids, hc, hw, ?_⟩
  have h := agrees_iff World.fresh_shipped (oneByOne asShipped (subscribe 500)) change hids _ _ hc
  rw [hw] at h
  dsimp only [s₀, s]
  exact h

/-- Both sides may part although they agreed and nothing failed: the store notes the level that was
asked for first, and the subscription runs at the other. -/
theorem not_agrees_of_crossing :
    let s₀ := (start .shipped).play .inMemory (oneByOne asShipped (subscribe 500))
    let s := s₀.play .inMemory crossing
    s₀.Idle ∧ s₀.course.world.Agrees credentials.user ∧ s.Idle ∧
      ¬s.course.world.Agrees credentials.user := by
  intro s₀ s
  have hc₀ : s₀.course.world.customer? credentials.user = some customer := by decide +kernel
  have hn₀ : s₀.course.world.noted credentials.user = some (subscriptionId, some 500) := by
    decide +kernel
  have hl₀ : s₀.course.world.registry.levelOf customer subscriptionId = some 500 := by
    decide +kernel
  have hc : s.course.world.customer? credentials.user = some customer := by decide +kernel
  have hn : s.course.world.noted credentials.user = some (subscriptionId, some 1000) := by
    decide +kernel
  have hl : s.course.world.registry.levelOf customer subscriptionId = some 2000 := by
    decide +kernel
  refine ⟨by decide +kernel, ?_, by decide +kernel, ?_⟩
  · rw [World.agrees_iff_agree hc₀, hn₀]
    exact ⟨500, rfl, hl₀⟩
  · rw [World.agrees_iff_agree hc, hn]
    rintro ⟨l, h, hl'⟩
    rw [hl] at hl'
    exact absurd (h.trans hl'.symm) (by decide)

/-- Both sides agree after a run if its last write at the processor and its last write to the store
match. -/
theorem agrees_of_matches {w : World} (hw : w.Fresh) (before moves : List (Move (Rules × Luck))) :
    let s₀ := ((start w).play .inMemory before).course
    let s := (((start w).play .inMemory before).play .inMemory moves).course
    s.drawn.Nodup → ∀ user c, s.world.customer? user = some c → ∀ remote stored,
      ((s₀.writesSince s user c).filter Write.isRemote).getLast? = some remote →
      ((s₀.writesSince s user c).filter (!Write.isRemote ·)).getLast? = some stored →
      remote.Matches stored → s.world.Agrees user := by
  intro s₀ s hids user c hc remote stored hr hs hm
  have h : s₀.Leaves s := leaves_play hw before moves
  rw [World.agrees_iff_agree hc, h.noted user c, funext (h.levelOf hids user c)]
  exact .of_matches hr hs hm _ _

end System

end Patronage
