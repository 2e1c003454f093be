import Patronage.Proofs.Conduct
/-!
# What calls do to processors

Every operation of a processor changes it in one of a few ways, and every call changes one processor
at most.  `Emulator.Shift` lists the ways, each with what the operation has looked at before and
with the identifier it drew, if any; whoever keeps something of processors goes through this list
and never through the operations.  Main statements:

* `World.shift_answer` — what a call does to the registry;
* `Course.drawn` — the identifiers drawn so far.
-/

namespace Patronage

namespace Assoc

variable {κ α β : Type} [DecidableEq κ]

/-- Applying a function to every value applies it to what is looked up. -/
@[simp] theorem get?_mapValues (f : α → β) (m : Assoc κ α) (k : κ) :
    (m.mapValues f).get? k = (m.get? k).map f := by
  obtain ⟨es⟩ := m
  simp only [get?, mapValues]
  induction es with
  | nil => rfl
  | cons e es ih =>
    by_cases h : e.1 = k
    · simp [find, h]
    · simpa [find, h] using ih

end Assoc

@[simp] theorem Registry.find?_set (r : Registry) (p q : Provider) (e : Emulator) :
    (r.set p e).find? q = if p = q then some e else r.find? q := by
  simp [Registry.set, Registry.find?]

/-- Setting a processor to what it is changes nothing that is looked up. -/
theorem Registry.find?_set_self {r : Registry} {p : Provider} {e : Emulator}
    (h : r.find? p = some e) (q : Provider) : (r.set p e).find? q = r.find? q := by
  rw [find?_set]
  split
  · rename_i hq
    rw [← hq, h]
  · rfl

theorem Subscription.isActiveOf_iff {s : Subscription} {customerId : String} :
    s.isActiveOf customerId ↔ s.customerId = customerId ∧ s.status = .active := by
  simp [isActiveOf]

namespace Emulator

theorem customer_eq_ok {e : Emulator} {id : String} {c : RemoteCustomer} :
    e.customer id = .ok c ↔ e.customers.get? id = some c := by
  unfold customer
  cases e.customers.get? id <;> simp

theorem subscription_eq_ok {e : Emulator} {id : String} {s : Subscription} :
    e.subscription id = .ok s ↔ e.subscriptions.get? id = some s := by
  unfold subscription
  cases e.subscriptions.get? id <;> simp

theorem currencyOf_eq_ok {e : Emulator} {id currency : String} :
    e.currencyOf id = .ok currency ↔ e.templates.get? id = some currency := by
  unfold currencyOf
  cases e.templates.get? id <;> simp

theorem activeSubscription_eq_ok {e : Emulator} {id : String} {s : Subscription} :
    e.activeSubscription id = .ok s ↔ e.subscriptions.get? id = some s ∧ s.status = .active := by
  rw [← subscription_eq_ok]
  unfold activeSubscription
  cases e.subscription id with
  | error f => exact ⟨nofun, nofun⟩
  | ok s' =>
    show (if s'.status = .active then Except.ok s' else .error _) = .ok s ↔ _
    split
    · rename_i h
      exact ⟨fun he => ⟨he, Except.ok.inj he ▸ h⟩, And.left⟩
    · rename_i h
      exact ⟨nofun, fun he => absurd (Except.ok.inj he.1 ▸ he.2) h⟩

/-- The processor with the running subscriptions of a customer canceled. -/
def closed (e : Emulator) (now : Moment) (customerId : String) : Emulator :=
  { e with
    subscriptions :=
      e.subscriptions.mapValues fun s => if s.isActiveOf customerId then s.cancel now else s }

/-- The processor with a subscription moved, and the key used up. -/
def moved (e : Emulator) (s : Subscription) (r : LevelRequest) (currency key : String) : Emulator :=
  { e with
    subscriptions := e.subscriptions.insert s.id
      { s with currency, templateId := r.templateId, level := r.level }
    updatedByKey := e.updatedByKey.insert key r }

/-- The processor with a payment item for a billing cycle. -/
def billed (e : Emulator) (s : Subscription) (cycle : Nat) (item : String) : Emulator :=
  { e with
    subscriptions := e.subscriptions.insert s.id { s with items := s.items.insert cycle item } }

/-- The processor with another customer. -/
def withCustomer (e : Emulator) (c : RemoteCustomer) : Emulator :=
  { e with customers := e.customers.insert c.id c }

/-- What a call may do to a processor and to the supply, and the identifier that it draws. -/
inductive Shift (m : Mint) (p : Provider) (e : Emulator) :
    Call → Emulator × TokenSource → Option String → Prop
  | same (c : Call) : Shift m p e c (e, m.tokens) none
  | customer (user : Bytes) (platform : Platform) :
    Shift m p e (.createCustomer p user platform)
      (e.withCustomer ⟨m.identifier e.idLead .customer, user, platform, false⟩, m.advance)
      (some (m.identifier e.idLead .customer))
  | opened (customerId templateId : String) (level last : Int) (currency : String)
    (known : (e.customers.get? customerId).isSome)
    (new : e.createdByKey.get? (customerId, last) = none)
    (priced : e.templates.get? templateId = some currency) :
    Shift m p e (.createSubscription p customerId templateId level last)
      (e.withSubscription ⟨m.identifier e.idLead .subscription, customerId, templateId, level,
        currency, .active, m.now, none, .empty⟩ last, m.advance)
      (some (m.identifier e.idLead .subscription))
  | moved (read s : Subscription) (templateId : String) (level : Int) (key currency : String)
    (known : e.subscriptions.get? read.id = some s) (active : s.status = .active)
    (priced : e.templates.get? templateId = some currency)
    (unused : e.updatedByKey.get? key = none) :
    Shift m p e (.updateSubscription p read templateId level key)
      (e.moved s ⟨read.id, templateId, level⟩ currency key, m.tokens) none
  | billed (id : String) (s : Subscription) (cycle : Nat)
    (known : e.subscriptions.get? id = some s) (active : s.status = .active)
    (unbilled : s.items.get? cycle = none) :
    Shift m p e (.receiptItem p id)
      (e.billed s cycle (m.identifier e.idLead .item), m.advance)
      (some (m.identifier e.idLead .item))
  | closed (customerId : String) (known : (e.customers.get? customerId).isSome) :
    Shift m p e (.cancelAll p customerId) (e.closed m.now customerId, m.tokens) none

variable (e : Emulator) {m : Mint} {p : Provider}

theorem shift_createCustomer (user : Bytes) (platform : Platform) :
    ∃ d, e.Shift m p (.createCustomer p user platform) (e.createCustomer m user platform).state d :=
  ⟨_, .customer user platform⟩

/-- A subscription is refused, or it was made before under its key, or it is made now. -/
theorem createSubscription_cases (m : Mint) (customerId templateId : String) (level last : Int) :
    (∃ f, e.createSubscription m customerId templateId level last = .fail (e, m.tokens) f) ∨
    (∃ id events, e.createdByKey.get? (customerId, last) = some id ∧
      e.createSubscription m customerId templateId level last = .ok (e, m.tokens) id events) ∨
    ∃ currency events, (e.customers.get? customerId).isSome ∧
      e.createdByKey.get? (customerId, last) = none ∧
      e.templates.get? templateId = some currency ∧
      e.createSubscription m customerId templateId level last =
        .ok (e.withSubscription ⟨m.identifier e.idLead .subscription, customerId, templateId, level,
          currency, .active, m.now, none, .empty⟩ last, m.advance)
          (m.identifier e.idLead .subscription) events := by
  unfold createSubscription
  dsimp only
  split
  · exact .inl ⟨_, rfl⟩
  · exact .inl ⟨_, rfl⟩
  · rename_i c currency hc hpriced
    split
    · rename_i id hid
      exact .inr (.inl ⟨id, _, hid, rfl⟩)
    · -- a customer that has to confirm gets no subscription, and the key stays free
      rename_i hnew
      split
      · exact .inl ⟨_, rfl⟩
      · exact .inr (.inr ⟨currency, _, by simp [customer_eq_ok.1 hc], hnew,
          currencyOf_eq_ok.1 hpriced, rfl⟩)

theorem shift_createSubscription (customerId templateId : String) (level last : Int) :
    ∃ d, e.Shift m p (.createSubscription p customerId templateId level last)
      (e.createSubscription m customerId templateId level last).state d := by
  obtain ⟨f, hfail⟩ | ⟨id, events, -, hreplay⟩ | ⟨currency, events, known, new, priced, hnew⟩ :=
    e.createSubscription_cases m customerId templateId level last
  · rw [hfail]
    exact ⟨_, .same _⟩
  · rw [hreplay]
    exact ⟨_, .same _⟩
  · rw [hnew]
    exact ⟨_, .opened _ _ _ _ currency known new priced⟩

theorem shift_updateSubscription (read : Subscription) (templateId : String) (level : Int)
    (key : String) :
    ∃ d, e.Shift m p (.updateSubscription p read templateId level key)
      ((e.updateSubscription ⟨read.id, templateId, level⟩ key).state, m.tokens) d := by
  unfold updateSubscription
  split
  · -- a key that was used before moves nothing, whether or not the request is the same
    split
    · exact ⟨_, .same _⟩
    · exact ⟨_, .same _⟩
  · rename_i hunused
    unfold moveLevel
    split
    · exact ⟨_, .same _⟩
    · exact ⟨_, .same _⟩
    · rename_i s currency hs hpriced
      obtain ⟨hs, hactive⟩ := activeSubscription_eq_ok.1 hs
      exact ⟨_, .moved read s templateId level key currency hs hactive
        (currencyOf_eq_ok.1 hpriced) hunused⟩

theorem shift_receiptItem (id : String) :
    ∃ d, e.Shift m p (.receiptItem p id) (e.receiptItem m id).state d := by
  unfold receiptItem
  split
  · exact ⟨_, .same _⟩
  · rename_i s hs
    obtain ⟨hs, hactive⟩ := activeSubscription_eq_ok.1 hs
    split
    · exact ⟨_, .same _⟩
    · rename_i cycle _
      unfold billCycle
      split
      · exact ⟨_, .same _⟩
      · rename_i hnone
        exact ⟨_, .billed id s cycle hs hactive hnone⟩

theorem shift_cancelAll (customerId : String) :
    ∃ d, e.Shift m p (.cancelAll p customerId)
      ((e.cancelAll m.now customerId).state, m.tokens) d := by
  unfold cancelAll
  split
  · exact ⟨_, .same _⟩
  · rename_i c hc
    exact ⟨_, .closed customerId (by simp [customer_eq_ok.1 hc])⟩

end Emulator

/-! ### Calls -/

/-- Where a call draws an identifier, if it draws one, and of what kind. -/
def Call.draws? : Call → Option (Provider × IdKind)
  | .createCustomer p .. => some (p, .customer)
  | .createSubscription p .. => some (p, .subscription)
  | .receiptItem p _ => some (p, .item)
  | _ => none

/-- A call that moves the supply on draws the next identifier, and no other call draws one. -/
theorem Emulator.Shift.drawn {m : Mint} {p : Provider} {e : Emulator} {c : Call}
    {s : Emulator × TokenSource} {d : Option String} (h : e.Shift m p c s d) :
    (s.2 = m.tokens ∧ d = none) ∨
      (s.2 = m.advance ∧ ∃ kind, c.draws? = some (p, kind) ∧
        d = some (m.identifier e.idLead kind)) := by
  cases h with
  | same | moved | closed => exact .inl ⟨rfl, rfl⟩
  | customer | opened | billed => exact .inr ⟨rfl, _, rfl, rfl⟩

/-- No operation takes a customer away. -/
theorem Emulator.Shift.isSome_customer {m : Mint} {p : Provider} {e : Emulator} {c : Call}
    {s : Emulator × TokenSource} {d : Option String} (h : e.Shift m p c s d) {id : String}
    (hid : (e.customers.get? id).isSome) : (s.1.customers.get? id).isSome := by
  cases h with
  | same | opened | moved | billed | closed => exact hid
  | customer user platform =>
    simp only [withCustomer, Assoc.get?_insert]
    split
    · rfl
    · exact hid

/-- A subscription after an operation is one from before, of the same customer and made when that
was, or it is made now, for a customer that there is. -/
theorem Emulator.Shift.subscription_cases {m : Mint} {p : Provider} {e : Emulator} {c : Call}
    {s : Emulator × TokenSource} {d : Option String} (h : e.Shift m p c s d) {id : String}
    {sub : Subscription} (hsub : s.1.subscriptions.get? id = some sub) :
    (∃ id₀ old, e.subscriptions.get? id₀ = some old ∧ sub.customerId = old.customerId ∧
      sub.createdAt = old.createdAt) ∨
    ((e.customers.get? sub.customerId).isSome ∧ sub.createdAt = m.now) := by
  cases h with
  | same | customer => exact .inl ⟨id, sub, hsub, rfl, rfl⟩
  | opened customerId templateId level last currency known =>
    simp only [withSubscription, Assoc.get?_insert] at hsub
    split at hsub
    · obtain rfl := Option.some.inj hsub
      exact .inr ⟨known, rfl⟩
    · exact .inl ⟨id, sub, hsub, rfl, rfl⟩
  | moved read old templateId level key currency known =>
    simp only [Emulator.moved, Assoc.get?_insert] at hsub
    split at hsub
    · obtain rfl := Option.some.inj hsub
      exact .inl ⟨read.id, old, known, rfl, rfl⟩
    · exact .inl ⟨id, sub, hsub, rfl, rfl⟩
  | billed id' old cycle known =>
    simp only [Emulator.billed, Assoc.get?_insert] at hsub
    split at hsub
    · obtain rfl := Option.some.inj hsub
      exact .inl ⟨id', old, known, rfl, rfl⟩
    · exact .inl ⟨id, sub, hsub, rfl, rfl⟩
  | closed customerId =>
    simp only [Emulator.closed, Assoc.get?_mapValues] at hsub
    obtain ⟨old, hold, rfl⟩ := Option.map_eq_some_iff.1 hsub
    refine .inl ⟨id, old, hold, ?_⟩
    -- a subscription that is canceled keeps its customer and its time
    split <;> exact ⟨rfl, rfl⟩

namespace World

/-- The identifier that a call draws: the supply tells whether there is one. -/
def drawn? (w : World) (c : Call) : Option String := do
  let (p, kind) ← c.draws?
  let e ← w.registry.find? p
  if (w.answer w.catalog.rules c).2.tokens.drawn = w.tokens.drawn then none
  else some (w.mint.identifier e.idLead kind)

variable {w : World} {c : Call}

theorem drawn?_eq_none (h : (w.answer w.catalog.rules c).2.tokens.drawn = w.tokens.drawn) :
    w.drawn? c = none := by
  unfold drawn?
  cases c.draws? with
  | none => rfl
  | some d => cases w.registry.find? d.1 <;> simp [h]

theorem drawn?_of_shift {p : Provider} {e : Emulator} {s : Emulator × TokenSource}
    {d : Option String} (hp : w.registry.find? p = some e) (hs : e.Shift w.mint p c s d)
    (hw : (w.answer w.catalog.rules c).2.tokens = s.2) : w.drawn? c = d := by
  obtain ⟨htokens, rfl⟩ | ⟨htokens, kind, hdraws, rfl⟩ := hs.drawn
  · exact drawn?_eq_none (by rw [hw, htokens]; rfl)
  · -- the supply moved on, and this is what tells that an identifier was drawn
    have hne : w.mint.advance.drawn ≠ w.tokens.drawn := Nat.succ_ne_self _
    simp [drawn?, hdraws, hp, hw, htokens, hne]

variable (w c) in
/-- What a call may do to the registry. -/
inductive Shift (w' : World) : Prop
  | same (registry : w'.registry = w.registry) (drawn : w.drawn? c = none)
    (tokens : w'.tokens = w.tokens)
  | at (p : Provider) (e e' : Emulator) (t : TokenSource) (find : w.registry.find? p = some e)
    (shift : e.Shift w.mint p c (e', t) (w.drawn? c)) (registry : w'.registry = w.registry.set p e')
    (tokens : w'.tokens = t)

section

variable {α : Type} {p : Provider}

theorem withMint_of_none (hp : w.registry.find? p = none)
    (act : Emulator → Mint → Outcome (Emulator × TokenSource) α) :
    w.withMint p act = (.error (.notConfigured p), w) := by
  simp [withMint, Registry.get, hp]

theorem withMint_of_some {e : Emulator} (hp : w.registry.find? p = some e)
    (act : Emulator → Mint → Outcome (Emulator × TokenSource) α) :
    w.withMint p act = ((act e w.mint).answer,
      { w with
        registry := w.registry.set p (act e w.mint).state.1
        tokens := (act e w.mint).state.2 }.writeAll (act e w.mint).events) := by
  simp [withMint, Registry.get, hp]

theorem withProcessor_of_none (hp : w.registry.find? p = none)
    (act : Emulator → Outcome Emulator α) :
    w.withProcessor p act = (.error (.notConfigured p), w) := by
  simp [withProcessor, Registry.get, hp]

theorem withProcessor_of_some {e : Emulator} (hp : w.registry.find? p = some e)
    (act : Emulator → Outcome Emulator α) :
    w.withProcessor p act = ((act e).answer,
      { w with registry := w.registry.set p (act e).state }.writeAll (act e).events) := by
  simp [withProcessor, Registry.get, hp]

theorem shift_withMint {act : Emulator → Mint → Outcome (Emulator × TokenSource) α}
    (hanswer : (w.answer w.catalog.rules c).2 = (w.withMint p act).2)
    (h : ∀ e : Emulator, ∃ d, e.Shift w.mint p c (act e w.mint).state d) :
    w.Shift c (w.withMint p act).2 := by
  cases hp : w.registry.find? p with
  | none =>
    rw [withMint_of_none hp] at hanswer ⊢
    exact .same rfl (drawn?_eq_none (by rw [hanswer])) rfl
  | some e =>
    rw [withMint_of_some hp] at hanswer ⊢
    obtain ⟨d, hd⟩ := h e
    obtain rfl := drawn?_of_shift hp hd (by rw [hanswer, tokens_writeAll])
    exact .at p e _ _ hp hd (registry_writeAll _ _) (tokens_writeAll _ _)

theorem shift_withProcessor {act : Emulator → Outcome Emulator α}
    (hanswer : (w.answer w.catalog.rules c).2 = (w.withProcessor p act).2)
    (h : ∀ e : Emulator, ∃ d, e.Shift w.mint p c ((act e).state, w.tokens) d) :
    w.Shift c (w.withProcessor p act).2 := by
  cases hp : w.registry.find? p with
  | none =>
    rw [withProcessor_of_none hp] at hanswer ⊢
    exact .same rfl (drawn?_eq_none (by rw [hanswer])) rfl
  | some e =>
    rw [withProcessor_of_some hp] at hanswer ⊢
    obtain ⟨d, hd⟩ := h e
    obtain rfl := drawn?_of_shift hp hd (by rw [hanswer, tokens_writeAll])
    exact .at p e _ _ hp hd (registry_writeAll _ _) (tokens_writeAll _ _)

/-! Processors are all that an operation on one changes. -/

variable (w)

@[simp] theorem store_withMint (act : Emulator → Mint → Outcome (Emulator × TokenSource) α) :
    (w.withMint p act).2.store = w.store := by
  cases hp : w.registry.find? p <;> simp [withMint_of_none, withMint_of_some, hp]

@[simp] theorem ledger_withMint (act : Emulator → Mint → Outcome (Emulator × TokenSource) α) :
    (w.withMint p act).2.ledger = w.ledger := by
  cases hp : w.registry.find? p <;> simp [withMint_of_none, withMint_of_some, hp]

@[simp] theorem catalog_withMint (act : Emulator → Mint → Outcome (Emulator × TokenSource) α) :
    (w.withMint p act).2.catalog = w.catalog := by
  cases hp : w.registry.find? p <;> simp [withMint_of_none, withMint_of_some, hp]

@[simp] theorem store_withProcessor (act : Emulator → Outcome Emulator α) :
    (w.withProcessor p act).2.store = w.store := by
  cases hp : w.registry.find? p <;> simp [withProcessor_of_none, withProcessor_of_some, hp]

@[simp] theorem ledger_withProcessor (act : Emulator → Outcome Emulator α) :
    (w.withProcessor p act).2.ledger = w.ledger := by
  cases hp : w.registry.find? p <;> simp [withProcessor_of_none, withProcessor_of_some, hp]

@[simp] theorem catalog_withProcessor (act : Emulator → Outcome Emulator α) :
    (w.withProcessor p act).2.catalog = w.catalog := by
  cases hp : w.registry.find? p <;> simp [withProcessor_of_none, withProcessor_of_some, hp]

end

/-- What a call does to the registry. -/
theorem shift_answer (rules : Rules) (w : World) (c : Call) : w.Shift c (w.answer rules c).2 := by
  cases c with
  | createCustomer p user platform =>
    exact shift_withMint rfl fun e => e.shift_createCustomer user platform
  | createSubscription p customerId templateId level last =>
    exact shift_withMint rfl fun e => e.shift_createSubscription customerId templateId level last
  | receiptItem p id => exact shift_withMint rfl fun e => e.shift_receiptItem id
  | updateSubscription p s templateId level key =>
    exact shift_withProcessor rfl fun e => e.shift_updateSubscription s templateId level key
  | cancelAll p customerId => exact shift_withProcessor rfl fun e => e.shift_cancelAll customerId
  -- the store and the ledger only log
  | create | accessedAt | canceledAt | setCustomer | subscriptionCreated | levelChanged =>
    exact .same (registry_writeAll _ _) rfl (tokens_writeAll _ _)
  | record => exact .same (registry_writeAll _ _) rfl (tokens_writeAll _ _)
  | lookUp | processorOf | subscription | tier | decode | issue | allows | expiration | setUp =>
    exact .same rfl rfl rfl

end World

/-- A call that writes to the store. -/
def Call.Stores : Call → Prop
  | .create .. | .accessedAt .. | .canceledAt .. | .setCustomer .. | .subscriptionCreated ..
  | .levelChanged .. => True
  | _ => False

/-- Other calls leave the store as it is. -/
theorem World.store_answer {w : World} (rules : Rules) {c : Call} (h : ¬c.Stores) :
    (w.answer rules c).2.store = w.store := by
  cases c with
  | create | accessedAt | canceledAt | setCustomer | subscriptionCreated | levelChanged =>
    exact absurd trivial h
  | _ => simp [answer, withLedger, asking]

/-! ### Fresh worlds -/

/-- A world without subscribers, payments or customers. -/
structure World.Fresh (w : World) : Prop where
  store : w.store = .empty
  ledger : w.ledger = .empty
  registry : ∀ {p e}, w.registry.find? p = some e →
    e.customers = .empty ∧ e.subscriptions = .empty ∧ e.createdByKey = .empty

namespace Registry

theorem find?_of_add {r r' : Registry} {e' : Emulator} (h : r.add e' = .ok r') {p : Provider}
    {e : Emulator} (he : r'.find? p = some e) : e = e' ∨ r.find? p = some e := by
  unfold add at h
  split at h
  · cases h
  · cases h
    by_cases hp : e'.provider = p
    · exact .inl (by simpa [find?, hp, eq_comm] using he)
    · exact .inr (by simpa [find?, hp] using he)

theorem mem_of_foldlM {es : List Emulator} {r r' : Registry} (h : es.foldlM add r = .ok r')
    {p : Provider} {e : Emulator} (he : r'.find? p = some e) : e ∈ es ∨ r.find? p = some e := by
  induction es generalizing r with
  | nil => cases h; exact .inr he
  | cons e' es ih =>
    rw [List.foldlM_cons] at h
    cases hadd : r.add e' with
    | error f => rw [hadd] at h; cases h
    | ok r₁ =>
      rw [hadd] at h
      obtain hm | h₁ := ih h
      · exact .inl (List.mem_cons_of_mem _ hm)
      · obtain rfl | h₂ := find?_of_add hadd h₁
        · exact .inl List.mem_cons_self
        · exact .inr h₂

end Registry

/-- The processors of a world that was built are those of its settings. -/
theorem World.find?_of_build {settings : Settings} {providers : List Provider} {clock : Moment}
    {signer : Signer} {w : World} (h : build settings providers clock signer = .ok w)
    {p : Provider} {e : Emulator} (he : w.registry.find? p = some e) :
    ∃ q, e = .ofSettings q settings := by
  unfold build at h
  dsimp only at h
  cases hr : Registry.ofList (providers.map (Emulator.ofSettings · settings)) with
  | error f => rw [hr] at h; cases h
  | ok r =>
    rw [hr] at h
    obtain rfl := Except.ok.inj h
    rw [registry_writeAll] at he
    obtain hm | he := Registry.mem_of_foldlM hr he
    · obtain ⟨q, -, rfl⟩ := List.mem_map.1 hm
      exact ⟨q, rfl⟩
    · exact absurd he (by simp [Registry.empty, Registry.find?])

/-- A world that was built is fresh. -/
theorem World.fresh_of_build {settings : Settings} {providers : List Provider} {clock : Moment}
    {signer : Signer} {w : World} (h : build settings providers clock signer = .ok w) :
    w.Fresh := by
  have hfind : ∀ {p e}, w.registry.find? p = some e → ∃ q, e = .ofSettings q settings :=
    find?_of_build h
  unfold build at h
  dsimp only at h
  cases hr : Registry.ofList (providers.map (Emulator.ofSettings · settings)) with
  | error f => rw [hr] at h; cases h
  | ok r =>
    rw [hr] at h
    obtain rfl := Except.ok.inj h
    refine ⟨store_writeAll _ _, ledger_writeAll _ _, fun {p e} he => ?_⟩
    obtain ⟨q, rfl⟩ := hfind he
    exact ⟨rfl, rfl, rfl⟩

theorem World.fresh_shipped : World.shipped.Fresh where
  store := rfl
  ledger := rfl
  registry {p e} he := by
    have hs : World.shipped.registry.find? p =
        if .stripe = p then some (.ofSettings .stripe .shipped) else none := by
      cases p <;> rfl
    rw [hs] at he
    split at he
    · obtain rfl := Option.some.inj he
      exact ⟨rfl, rfl, rfl⟩
    · cases he

/-! ### Courses -/

/-- The identifiers drawn so far. -/
def Course.drawn (s : Course) : List String := s.past.filterMap fun e => e.1.drawn? e.2

theorem Course.drawn_mono {s s' : Course} (h : s.past <+: s'.past) : s.drawn <+: s'.drawn :=
  h.filterMap _

theorem Course.nodup_mono {s s' : Course} (h : s.past <+: s'.past) (hids : s'.drawn.Nodup) :
    s.drawn.Nodup :=
  hids.sublist (drawn_mono h).sublist

theorem Course.Alike.drawn {s s' : Course} (h : s.Alike s') : s'.drawn = s.drawn := by
  rw [Course.drawn, h.past, Course.drawn]

end Patronage
