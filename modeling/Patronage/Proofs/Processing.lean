import Patronage.Proofs.Naming
/-!
# A processor in use

An emulated processor is asked for one thing after the other, each at a time of its own.  Whatever
is asked, and however it turns out, its tables agree with each other and with what it was set up
with, as long as the identifiers that it draws differ.  Main statements:

* `Emulator.Operation.edit` — what an operation does to a processor;
* `Emulator.Tabled.perform` — an operation keeps the tables in agreement;
* `Emulator.tabled_run` — the tables agree, and what was canceled stays as it is.
-/

namespace Patronage

/-- An outcome beside a state that it leaves alone. -/
def Outcome.beside {σ τ α : Type} (o : Outcome σ α) (t : τ) : Outcome (σ × τ) α :=
  ⟨(o.state, t), o.answer, o.events⟩

namespace Emulator

/-- What may be asked of a processor. -/
inductive Operation
  | createCustomer (user : Bytes) (platform : Platform)
  | createSubscription (customerId templateId : String) (level last : Int)
  | updateSubscription (read : Subscription) (templateId : String) (level : Int) (key : String)
  | receiptItem (id : String)
  | cancelAll (customerId : String)
  | requireAction (customerId : String) (required : Bool)

/-- Something asked of a processor at some time. -/
structure Order where
  operation : Operation
  now : Moment

namespace Operation

/-- What an operation answers with. -/
def Answer : Operation → Type
  | .createCustomer .. => Customer
  | .createSubscription .. | .updateSubscription .. => String
  | .receiptItem _ => ReceiptItem
  | .cancelAll _ | .requireAction .. => Unit

/-- What an operation does at a processor. -/
def perform (e : Emulator) (m : Mint) :
    (o : Operation) → Outcome (Emulator × TokenSource) o.Answer
  | .createCustomer user platform => e.createCustomer m user platform
  | .createSubscription customerId templateId level last =>
    e.createSubscription m customerId templateId level last
  | .updateSubscription read templateId level key =>
    (e.updateSubscription ⟨read.id, templateId, level⟩ key).beside m.tokens
  | .receiptItem id => e.receiptItem m id
  | .cancelAll customerId => (e.cancelAll m.now customerId).beside m.tokens
  | .requireAction customerId required => (e.requireAction customerId required).beside m.tokens

/-- What the operation of a processor is called by managers, if they use it. -/
def call? (p : Provider) : Operation → Option Call
  | .createCustomer user platform => some (.createCustomer p user platform)
  | .createSubscription customerId templateId level last =>
    some (.createSubscription p customerId templateId level last)
  | .updateSubscription read templateId level key =>
    some (.updateSubscription p read templateId level key)
  | .receiptItem id => some (.receiptItem p id)
  | .cancelAll customerId => some (.cancelAll p customerId)
  | .requireAction .. => none

/-- The kind of identifier that an operation may draw. -/
def kind? : Operation → Option IdKind
  | .createCustomer .. => some .customer
  | .createSubscription .. => some .subscription
  | .receiptItem _ => some .item
  | .updateSubscription .. | .cancelAll _ | .requireAction .. => none

/-- The identifier that an operation draws: the supply tells whether there is one. -/
def drawn? (e : Emulator) (m : Mint) (o : Operation) : Option String :=
  if (o.perform e m).state.2.drawn = m.tokens.drawn then none
  else o.kind?.map (m.identifier e.idLead)

/-- The key that an operation used for a subscription, and the subscription that it answered
with. -/
def created? (e : Emulator) (m : Mint) : Operation → Option ((String × Int) × String)
  | .createSubscription customerId templateId level last =>
    (e.createSubscription m customerId templateId level last).answer.toOption.map
      ((customerId, last), ·)
  | _ => none

end Operation

namespace Order

variable (o : Order) (s : Emulator × TokenSource)

/-- The state after an order. -/
def next : Emulator × TokenSource := (o.operation.perform s.1 ⟨o.now, s.2⟩).state

/-- The identifier that is drawn for an order. -/
def drawn? : Option String := o.operation.drawn? s.1 ⟨o.now, s.2⟩

/-- The key used for an order, and the subscription that it was answered with. -/
def created? : Option ((String × Int) × String) := o.operation.created? s.1 ⟨o.now, s.2⟩

end Order

/-- The state after some orders, one after the other. -/
def run (s : Emulator × TokenSource) (os : List Order) : Emulator × TokenSource :=
  os.foldl (fun s o => o.next s) s

/-- The identifiers drawn for some orders. -/
def drawn (s : Emulator × TokenSource) : List Order → List String
  | [] => []
  | o :: os => (o.drawn? s).toList ++ drawn (o.next s) os

/-- The keys used for some orders, each with the subscription that was answered with. -/
def created (s : Emulator × TokenSource) : List Order → List ((String × Int) × String)
  | [] => []
  | o :: os => (o.created? s).toList ++ created (o.next s) os

theorem run_cons (s : Emulator × TokenSource) (o : Order) (os : List Order) :
    run s (o :: os) = run (o.next s) os := rfl

theorem run_append (s : Emulator × TokenSource) (os os' : List Order) :
    run s (os ++ os') = run (run s os) os' := List.foldl_append

theorem drawn_append (s : Emulator × TokenSource) (os os' : List Order) :
    drawn s (os ++ os') = drawn s os ++ drawn (run s os) os' := by
  induction os generalizing s with
  | nil => rfl
  | cons o os ih =>
    rw [List.cons_append, drawn, drawn, ih, run_cons, List.append_assoc]

/-! ### What an operation does -/

/-- The processor with a customer whose next subscriptions wait for it, or do not. -/
def marked (e : Emulator) (customerId : String) (c : RemoteCustomer) (required : Bool) : Emulator :=
  { e with customers := e.customers.insert customerId { c with requiresAction := required } }

/-- What an operation may do to a processor and to the supply, and the identifier that it draws. -/
inductive Edit (e : Emulator) (m : Mint) (o : Operation) :
    Emulator × TokenSource → Option String → Prop
  | idle : Edit e m o (e, m.tokens) none
  | shift (call : Call) (known : o.call? e.provider = some call) (s : Emulator × TokenSource)
    (d : Option String) (shift : e.Shift m e.provider call s d) : Edit e m o s d
  | marked (customerId : String) (required : Bool) (c : RemoteCustomer)
    (order : o = .requireAction customerId required)
    (known : e.customers.get? customerId = some c) :
    Edit e m o (e.marked customerId c required, m.tokens) none

namespace Operation

variable {e : Emulator} {m : Mint} {o : Operation}

theorem kind?_of_call? {p : Provider} {call : Call} (h : o.call? p = some call) :
    call.draws? = o.kind?.map (p, ·) := by
  cases o <;> cases h <;> rfl

theorem edit_of_shift {call : Call} (hcall : o.call? e.provider = some call)
    (h : ∃ d, e.Shift m e.provider call (o.perform e m).state d) :
    e.Edit m o (o.perform e m).state (o.drawn? e m) := by
  obtain ⟨d, hd⟩ := h
  suffices o.drawn? e m = d from this ▸ .shift call hcall _ _ hd
  unfold drawn?
  obtain ⟨htokens, rfl⟩ | ⟨htokens, kind, hdraws, rfl⟩ := hd.drawn
  · rw [if_pos (by rw [htokens])]
  · -- the supply moved on, and this is what tells that an identifier was drawn
    have hne : m.advance.drawn ≠ m.tokens.drawn := Nat.succ_ne_self _
    rw [kind?_of_call? hcall] at hdraws
    obtain ⟨kind', hkind, heq⟩ := Option.map_eq_some_iff.1 hdraws
    obtain rfl := (Prod.mk.inj heq).2
    rw [htokens, if_neg hne, hkind, Option.map_some]

/-- What an operation does to a processor. -/
theorem edit (e : Emulator) (m : Mint) (o : Operation) :
    e.Edit m o (o.perform e m).state (o.drawn? e m) := by
  cases o with
  | createCustomer user platform => exact edit_of_shift rfl (e.shift_createCustomer user platform)
  | createSubscription customerId templateId level last =>
    exact edit_of_shift rfl (e.shift_createSubscription customerId templateId level last)
  | updateSubscription read templateId level key =>
    exact edit_of_shift rfl (e.shift_updateSubscription read templateId level key)
  | receiptItem id => exact edit_of_shift rfl (e.shift_receiptItem id)
  | cancelAll customerId => exact edit_of_shift rfl (e.shift_cancelAll customerId)
  | requireAction customerId required =>
    have hdrawn : (Operation.requireAction customerId required).drawn? e m = none := if_pos rfl
    have hstate : ((Operation.requireAction customerId required).perform e m).state =
        ((e.requireAction customerId required).state, m.tokens) := rfl
    rw [hdrawn, hstate]
    unfold Emulator.requireAction
    split
    · exact .idle
    · rename_i c hc
      exact .marked customerId required c rfl (customer_eq_ok.1 hc)

end Operation

/-! ### The tables -/

/-- The customer of a subscription. -/
def customerOf? (e : Emulator) (id : String) : Option String :=
  (e.subscriptions.get? id).map (·.customerId)

variable {e : Emulator} {m : Mint} {o : Operation} {s : Emulator × TokenSource} {d : Option String}
  {ids : List String}

/-- A subscription takes the place of another one of the same customer. -/
theorem customerOf?_of_insert {e' : Emulator} {id : String} {sub sub' : Subscription}
    (hsub : e.subscriptions.get? id = some sub)
    (he' : e'.subscriptions = e.subscriptions.insert id sub')
    (hc : sub'.customerId = sub.customerId) (id' : String) :
    e'.customerOf? id' = e.customerOf? id' := by
  unfold customerOf?
  rw [he', Assoc.get?_insert]
  split
  · rename_i h
    rw [← h, hsub]
    exact congrArg some hc
  · rfl

/-- A call makes a subscription under a key that was not used, or it changes no key and moves no
subscription to another customer. -/
theorem Shift.opened_or {p : Provider} {call : Call} (h : e.Shift m p call s d) (hn : e.Named ids) :
    (∃ customerId templateId level last currency,
      call = .createSubscription p customerId templateId level last ∧
      e.createdByKey.get? (customerId, last) = none ∧
      d = some (m.identifier e.idLead .subscription) ∧
      s.1 = e.withSubscription ⟨m.identifier e.idLead .subscription, customerId, templateId, level,
        currency, .active, m.now, none, .empty⟩ last) ∨
    (s.1.createdByKey = e.createdByKey ∧ ∀ id, s.1.customerOf? id = e.customerOf? id) := by
  cases h with
  | same | customer => exact .inr ⟨rfl, fun _ => rfl⟩
  | opened customerId templateId level last currency known new =>
    exact .inl ⟨customerId, templateId, level, last, currency, rfl, new, rfl, rfl⟩
  | moved read sub templateId level key currency known =>
    have hsub : e.subscriptions.get? sub.id = some sub := (hn.subscription known).1 ▸ known
    exact .inr ⟨rfl, customerOf?_of_insert hsub rfl rfl⟩
  | billed id sub cycle known =>
    have hsub : e.subscriptions.get? sub.id = some sub := (hn.subscription known).1 ▸ known
    exact .inr ⟨rfl, customerOf?_of_insert hsub rfl rfl⟩
  | closed customerId =>
    refine .inr ⟨rfl, fun id => ?_⟩
    unfold customerOf?
    rw [Emulator.closed, Assoc.get?_mapValues, Option.map_map]
    congr 1
    funext sub
    -- a subscription that is canceled keeps its customer
    simp only [Function.comp]
    split <;> rfl

/-- No operation puts an end to a customer. -/
theorem Edit.isSome_customer (h : e.Edit m o s d) {id : String}
    (hid : (e.customers.get? id).isSome) : (s.1.customers.get? id).isSome := by
  cases h with
  | idle => exact hid
  | shift call _ _ _ hshift => exact hshift.isSome_customer hid
  | marked =>
    simp only [Emulator.marked, Assoc.get?_insert]
    split
    · rfl
    · exact hid

/-- An operation keeps everything filed where it belongs. -/
theorem Edit.named (h : e.Edit m o s d) (hn : e.Named ids) : s.1.Named (ids ++ d.toList) := by
  cases h with
  | idle => exact hn.mono (List.subset_append_left _ _)
  | shift call _ _ _ hshift => exact hshift.named hn
  | marked customerId required c _ known =>
    have hmarked : (e.marked customerId c required).Named ids := by
      refine ⟨hn.subscription, fun {id r} hr => ?_, hn.item⟩
      simp only [Emulator.marked, Assoc.get?_insert] at hr
      split at hr
      · rename_i hid
        obtain rfl := Option.some.inj hr
        exact hid ▸ (hn.customer known :)
      · exact hn.customer hr
    exact hmarked.mono (List.subset_append_left _ _)

/-- No operation changes the templates. -/
theorem Edit.templates (h : e.Edit m o s d) : s.1.templates = e.templates := by
  cases h with
  | idle | marked => rfl
  | shift call _ _ _ hshift => cases hshift <;> rfl

end Emulator

/-! ### Subscriptions -/

/-- A subscription of a customer, in the currency of its template, that has been canceled at some
time or runs. -/
structure Subscription.Sound (e : Emulator) (s : Subscription) : Prop where
  customer : (e.customers.get? s.customerId).isSome
  priced : e.templates.get? s.templateId = some s.currency
  canceled : s.status = .canceled ↔ s.canceledAt.isSome

theorem Subscription.Sound.mono {e e' : Emulator} {s : Subscription} (h : s.Sound e)
    (hc : ∀ {id}, (e.customers.get? id).isSome → (e'.customers.get? id).isSome)
    (ht : e'.templates = e.templates) : s.Sound e' :=
  ⟨hc h.customer, ht ▸ h.priced, h.canceled⟩

/-- No call changes a subscription that was canceled. -/
theorem Subscription.Shift.eq_of_canceled {m : Mint} {p : Provider} {c : Call} {d : Option String}
    {s s' : Subscription} (h : s.Shift m p c d s') (hs : s.status = .canceled) : s' = s := by
  cases h with
  | same => rfl
  | moved _ _ _ _ _ _ _ active | billed _ _ _ _ active => cases hs.symm.trans active
  | closed customerId _ active =>
    cases hs.symm.trans (isActiveOf_iff.1 active).2

namespace Emulator

variable {e : Emulator} {m : Mint} {o : Operation} {s : Emulator × TokenSource} {d : Option String}
  {ids : List String} {id : String} {sub : Subscription}

/-- What was canceled stays as it is. -/
theorem Edit.get?_of_canceled (h : e.Edit m o s d) (hn : e.Named ids) (hd : ∀ x ∈ d, x ∉ ids)
    (hsub : e.subscriptions.get? id = some sub) (hc : sub.status = .canceled) :
    s.1.subscriptions.get? id = some sub := by
  cases h with
  | idle | marked => exact hsub
  | shift call _ _ _ hshift =>
    have hne : d ≠ some id := fun he => hd id he (hn.subscription hsub).2
    obtain ⟨sub', hsub', hs⟩ := hshift.before hn hne hsub
    rwa [hs.eq_of_canceled hc] at hsub'

/-- Every subscription is sound. -/
def Sound (e : Emulator) : Prop := ∀ {id sub}, e.subscriptions.get? id = some sub → sub.Sound e

/-- Subscriptions stay sound. -/
theorem Edit.sound (h : e.Edit m o s d) (hs : e.Sound) : s.1.Sound := by
  intro id sub hsub
  have old : ∀ {sub : Subscription}, sub.Sound e → sub.Sound s.1 :=
    fun hsub => hsub.mono h.isSome_customer h.templates
  cases h with
  | idle => exact hs hsub
  | marked => exact old (hs hsub)
  | shift call _ _ _ hshift =>
    cases hshift with
    | same => exact hs hsub
    | customer => exact old (hs hsub)
    | opened customerId templateId level last currency known _ priced =>
      simp only [withSubscription, Assoc.get?_insert] at hsub
      split at hsub
      · obtain rfl := Option.some.inj hsub
        exact old ⟨known, priced, iff_of_false (by rintro ⟨⟩) (by rintro ⟨⟩)⟩
      · exact old (hs hsub)
    | moved read was templateId level key currency known _ priced =>
      simp only [Emulator.moved, Assoc.get?_insert] at hsub
      split at hsub
      · obtain rfl := Option.some.inj hsub
        exact old ⟨(hs known).customer, priced, (hs known).canceled⟩
      · exact old (hs hsub)
    | billed _ was cycle known =>
      simp only [Emulator.billed, Assoc.get?_insert] at hsub
      split at hsub
      · obtain rfl := Option.some.inj hsub
        exact old ⟨(hs known).customer, (hs known).priced, (hs known).canceled⟩
      · exact old (hs hsub)
    | closed customerId =>
      simp only [Emulator.closed, Assoc.get?_mapValues] at hsub
      obtain ⟨was, hwas, rfl⟩ := Option.map_eq_some_iff.1 hsub
      split
      · exact old ⟨(hs hwas).customer, (hs hwas).priced, iff_of_true rfl rfl⟩
      · exact old (hs hwas)

/-! ### Keys -/

/-- Keys and subscriptions stand for each other one to one, and the customer of a key is that of its
subscription. -/
structure Keyed (e : Emulator) : Prop where
  customer : ∀ {key id}, e.createdByKey.get? key = some id → e.customerOf? id = some key.1
  exists_key : ∀ {id}, (e.customerOf? id).isSome → ∃ key, e.createdByKey.get? key = some id
  unique : ∀ {key key' id}, e.createdByKey.get? key = some id →
    e.createdByKey.get? key' = some id → key = key'

theorem Named.mem_of_customerOf? (hn : e.Named ids) (h : (e.customerOf? id).isSome) : id ∈ ids := by
  unfold customerOf? at h
  rw [Option.isSome_map] at h
  obtain ⟨sub, hsub⟩ := Option.isSome_iff_exists.1 h
  exact (hn.subscription hsub).2

theorem customerOf?_withSubscription (last : Int) :
    (e.withSubscription sub last).customerOf? id =
      if sub.id = id then some sub.customerId else e.customerOf? id := by
  unfold customerOf? withSubscription
  rw [Assoc.get?_insert]
  split <;> rfl

/-- A new subscription under a new key keeps keys and subscriptions in step. -/
theorem Keyed.withSubscription {last : Int} (hk : e.Keyed) (hn : e.Named ids) (hid : sub.id ∉ ids)
    (hnew : e.createdByKey.get? (sub.customerId, last) = none) :
    (e.withSubscription sub last).Keyed := by
  have hkeys : ∀ key, (e.withSubscription sub last).createdByKey.get? key =
      if (sub.customerId, last) = key then some sub.id else e.createdByKey.get? key :=
    fun key => Assoc.get?_insert _ _ key _
  -- no key stands for the new subscription yet
  have hunused : ∀ {key}, e.createdByKey.get? key ≠ some sub.id := fun hkey =>
    hid (hn.mem_of_customerOf? (by rw [hk.customer hkey]; rfl))
  refine ⟨fun {key id} h => ?_, fun {id} h => ?_, fun {key key' id} h h' => ?_⟩
  · rw [customerOf?_withSubscription]
    rw [hkeys] at h
    split at h
    · rename_i hkey
      rw [if_pos (Option.some.inj h), ← hkey]
    · rw [if_neg fun he : sub.id = id => hunused (he ▸ h)]
      exact hk.customer h
  · rw [customerOf?_withSubscription] at h
    split at h
    · rename_i he
      exact ⟨(sub.customerId, last), by rw [hkeys, if_pos rfl, he]⟩
    · obtain ⟨key, hkey⟩ := hk.exists_key h
      refine ⟨key, ?_⟩
      rw [hkeys, if_neg fun h => ?_]
      · exact hkey
      · rw [← h, hnew] at hkey
        cases hkey
  · rw [hkeys] at h h'
    split at h
    · rename_i hkey
      obtain rfl := Option.some.inj h
      split at h'
      · rename_i hkey'
        rw [← hkey, hkey']
      · exact absurd h' hunused
    · split at h'
      · obtain rfl := Option.some.inj h'
        exact absurd h hunused
      · exact hk.unique h h'

/-- Keys and subscriptions stay in step. -/
theorem Edit.keyed (h : e.Edit m o s d) (hn : e.Named ids) (hd : ∀ x ∈ d, x ∉ ids) (hk : e.Keyed) :
    s.1.Keyed := by
  cases h with
  | idle => exact hk
  | marked => exact ⟨hk.customer, hk.exists_key, hk.unique⟩
  | shift call _ _ _ hshift =>
    obtain ⟨customerId, templateId, level, last, currency, -, hnew, hdrawn, hs⟩ | ⟨hkeys, hsubs⟩ :=
      hshift.opened_or hn
    · rw [hs]
      exact hk.withSubscription hn (hd _ hdrawn) hnew
    · refine ⟨fun {key id} h => ?_, fun {id} h => ?_, fun {key key' id} h h' => ?_⟩
      · rw [hkeys] at h
        rw [hsubs]
        exact hk.customer h
      · rw [hsubs] at h
        rw [hkeys]
        exact hk.exists_key h
      · rw [hkeys] at h h'
        exact hk.unique h h'

/-- Only making a subscription writes keys. -/
theorem Edit.createdByKey (h : e.Edit m o s d) (ho : o.kind? ≠ some .subscription) :
    s.1.createdByKey = e.createdByKey := by
  cases h with
  | idle | marked => rfl
  | shift call known _ _ hshift =>
    cases hshift with
    | opened =>
      have hkind := Operation.kind?_of_call? known
      obtain ⟨kind, hkind, heq⟩ := Option.map_eq_some_iff.1 hkind.symm
      obtain rfl := (Prod.mk.inj heq).2
      exact absurd hkind ho
    | same | customer | moved | billed | closed => rfl

/-- A key stands for what it stood for, or for what the operation has just answered with. -/
theorem Operation.createdByKey_iff (e : Emulator) (m : Mint) (o : Operation) (key : String × Int)
    (id : String) :
    (o.perform e m).state.1.createdByKey.get? key = some id ↔
      e.createdByKey.get? key = some id ∨ o.created? e m = some (key, id) := by
  cases o with
  | createSubscription customerId templateId level last =>
    show (e.createSubscription m customerId templateId level last).state.1.createdByKey.get? key =
      some id ↔ _ ∨ (e.createSubscription m customerId templateId level last).answer.toOption.map _ =
        some (key, id)
    obtain ⟨f, hfail⟩ | ⟨made, events, hkey, hreplay⟩ | ⟨currency, events, -, hkey, -, hnew⟩ :=
      e.createSubscription_cases m customerId templateId level last
    · rw [hfail]
      exact ⟨.inl, fun h => h.resolve_right (by rintro ⟨⟩)⟩
    · rw [hreplay]
      refine ⟨.inl, fun h => h.elim (fun h => h) fun h => ?_⟩
      obtain ⟨rfl, rfl⟩ := Prod.mk.inj (Option.some.inj h)
      exact hkey
    · rw [hnew]
      show (e.createdByKey.insert (customerId, last) _).get? key = some id ↔
        _ ∨ some ((customerId, last), _) = some (key, id)
      rw [Assoc.get?_insert]
      split
      · rename_i h
        subst h
        simp [hkey]
      · rename_i h
        simp [h]
  | _ =>
    rw [(edit e m _).createdByKey (by simp [kind?])]
    exact ⟨.inl, fun h => h.resolve_right (by rintro ⟨⟩)⟩

/-! ### Orders one after the other -/

/-- The tables of a processor agree with each other and with what was answered so far. -/
structure Tabled (created : List ((String × Int) × String)) (e : Emulator) : Prop where
  sound : e.Sound
  keyed : e.Keyed
  created : ∀ {key id}, e.createdByKey.get? key = some id ↔ (key, id) ∈ created

/-- A processor that was just set up has nothing in its tables. -/
theorem tabled_ofSettings (provider : Provider) (settings : Settings) :
    (ofSettings provider settings).Named [] ∧ (ofSettings provider settings).Tabled [] := by
  refine ⟨⟨nofun, nofun, nofun⟩, ⟨nofun, ⟨nofun, nofun, nofun⟩, ?_⟩⟩
  intro key id
  exact iff_of_false (by rintro ⟨⟩) List.not_mem_nil

section

variable {created : List ((String × Int) × String)}

/-- What a processor does for an order. -/
theorem Order.edit (od : Order) (s : Emulator × TokenSource) :
    s.1.Edit ⟨od.now, s.2⟩ od.operation (od.next s) (od.drawn? s) :=
  od.operation.edit s.1 ⟨od.now, s.2⟩

/-- An order keeps the tables in agreement. -/
theorem Tabled.next (h : s.1.Tabled created) (hn : s.1.Named ids) (od : Order)
    (hd : ∀ x ∈ od.drawn? s, x ∉ ids) :
    (od.next s).1.Tabled (created ++ (od.created? s).toList) := by
  have hedit := od.edit s
  refine ⟨hedit.sound h.sound, hedit.keyed hn hd h.keyed, fun {key id} => ?_⟩
  rw [List.mem_append, Option.mem_toList, ← h.created]
  exact od.operation.createdByKey_iff s.1 ⟨od.now, s.2⟩ key id

theorem not_mem_of_nodup_append {d : Option String} {xs : List String}
    (h : (ids ++ (d.toList ++ xs)).Nodup) : ∀ x ∈ d, x ∉ ids := by
  intro x hx hids
  exact (List.nodup_append.1 h).2.2 x hids x (List.mem_append_left _ (Option.mem_toList.2 hx)) rfl

/-- Orders keep everything filed where it belongs. -/
theorem Named.run (hn : s.1.Named ids) (os : List Order) :
    (run s os).1.Named (ids ++ drawn s os) := by
  induction os generalizing s ids with
  | nil => exact hn.mono (List.subset_append_left _ _)
  | cons od os ih =>
    rw [run_cons, drawn, ← List.append_assoc]
    exact ih ((od.edit s).named hn)

/-- Orders keep the tables in agreement. -/
theorem Tabled.run (h : s.1.Tabled created) (hn : s.1.Named ids) (os : List Order)
    (hids : (ids ++ drawn s os).Nodup) :
    (run s os).1.Tabled (created ++ Emulator.created s os) := by
  induction os generalizing s ids created with
  | nil => rwa [Emulator.created, List.append_nil]
  | cons od os ih =>
    rw [run_cons, Emulator.created, ← List.append_assoc]
    refine ih (h.next hn od (not_mem_of_nodup_append hids)) ((od.edit s).named hn) ?_
    rwa [List.append_assoc]

/-- Orders leave what was canceled as it is. -/
theorem get?_run_of_canceled (hn : s.1.Named ids) (os : List Order)
    (hids : (ids ++ drawn s os).Nodup) (hsub : s.1.subscriptions.get? id = some sub)
    (hc : sub.status = .canceled) : (run s os).1.subscriptions.get? id = some sub := by
  induction os generalizing s ids with
  | nil => exact hsub
  | cons od os ih =>
    rw [run_cons]
    refine ih ((od.edit s).named hn) ?_ ?_
    · rwa [List.append_assoc]
    · exact (od.edit s).get?_of_canceled hn (not_mem_of_nodup_append hids) hsub hc

theorem templates_run (s : Emulator × TokenSource) (os : List Order) :
    (run s os).1.templates = s.1.templates := by
  induction os generalizing s with
  | nil => rfl
  | cons od os ih => rw [run_cons, ih, (od.edit s).templates]

end

/-- Whatever is asked of a processor, and however that turns out, as long as the identifiers that it
draws differ: it has the templates that it was set up with; every subscription is of a customer that
there is, is in the currency of its template, and is canceled just if it has been at some time; the
keys used so far and the subscriptions stand for each other one to one, so that a key that was used
makes nothing more; and a subscription that is canceled stays as it is. -/
theorem tabled_run (provider : Provider) (settings : Settings) (tokens : TokenSource)
    (earlier later : List Order)
    (hids : (drawn (ofSettings provider settings, tokens) (earlier ++ later)).Nodup) :
    let start := (ofSettings provider settings, tokens)
    let e := (run start earlier).1
    e.templates = templatesOf settings.levels ∧
    e.Tabled (created start earlier) ∧
    (∀ (m : Mint) (customerId templateId : String) (level last : Int) (id : String),
      e.createdByKey.get? (customerId, last) = some id →
        (e.createSubscription m customerId templateId level last).state = (e, m.tokens)) ∧
    (∀ (id : String) (sub : Subscription), e.subscriptions.get? id = some sub →
      sub.status = .canceled →
        (run start (earlier ++ later)).1.subscriptions.get? id = some sub) := by
  intro start e
  obtain ⟨hnamed, htabled⟩ := tabled_ofSettings provider settings
  rw [drawn_append] at hids
  refine ⟨templates_run start earlier, ?_, ?_, ?_⟩
  · exact htabled.run (s := start) hnamed earlier (List.nodup_append.1 hids).1
  · intro m customerId templateId level last id hkey
    obtain ⟨f, hfail⟩ | ⟨made, events, -, hreplay⟩ | ⟨currency, events, -, hnone, -⟩ :=
      e.createSubscription_cases m customerId templateId level last
    · rw [hfail]
      rfl
    · rw [hreplay]
      rfl
    · cases hkey.symm.trans hnone
  · intro id sub hsub hc
    rw [run_append]
    exact get?_run_of_canceled (Named.run (s := start) hnamed earlier) later hids hsub hc

namespace Sample

def customerId : String := "emulator_cus_0000000000000001_0"

/-- A subscription as a caller holds it. -/
def held : Subscription :=
  ⟨"emulator_sub_0000000000000002_0", customerId, "price_donation_500_usd", 500, "usd", .active,
    .epoch, none, .empty⟩

/-- A customer subscribes, twice under one key, has to confirm before it may do so under another, and
has everything canceled. -/
def orders : List Order :=
  [.createCustomer [0xaa] .ios, .createSubscription customerId "price_donation_500_usd" 500 0,
    .createSubscription customerId "price_donation_500_usd" 500 0, .requireAction customerId true,
    .createSubscription customerId "price_donation_1000_usd" 1000 1,
    .requireAction customerId false,
    .createSubscription customerId "price_donation_1000_usd" 1000 1, .receiptItem held.id,
    .updateSubscription held "price_donation_1000_eur" 1000 "key", .cancelAll customerId].map
      (⟨·, .epoch⟩)

/-- What was canceled is moved, billed and canceled again, and its key is used again. -/
def laterOrders : List Order :=
  [.updateSubscription held "price_donation_500_usd" 500 "other", .receiptItem held.id,
    .createSubscription customerId "price_donation_500_usd" 500 0, .cancelAll customerId].map
      (⟨·, .epoch⟩)

/-- The processor that is set up for the sample. -/
def start : Emulator × TokenSource := (ofSettings .stripe .shipped, .counting)

end Sample

/-- After the orders of the sample two subscriptions are canceled, and later orders leave the first
one as it is. -/
theorem tabled_run_orders :
    (drawn Sample.start (Sample.orders ++ Sample.laterOrders)).Nodup ∧
    (run Sample.start Sample.orders).1.Tabled (created Sample.start Sample.orders) ∧
    ∃ sub, sub.status = .canceled ∧
      (run Sample.start Sample.orders).1.subscriptions.get? Sample.held.id = some sub ∧
      (run Sample.start (Sample.orders ++ Sample.laterOrders)).1.subscriptions.get? Sample.held.id =
        some sub := by
  have hids : (drawn Sample.start (Sample.orders ++ Sample.laterOrders)).Nodup := by decide +kernel
  obtain ⟨-, htabled, -, hkept⟩ :=
    tabled_run .stripe .shipped .counting Sample.orders Sample.laterOrders hids
  have hcanceled : ∃ sub, (run Sample.start Sample.orders).1.subscriptions.get? Sample.held.id =
      some sub ∧ sub.status = .canceled := by
    have h : ((run Sample.start Sample.orders).1.subscriptions.get? Sample.held.id).map (·.status) =
      some .canceled := by decide +kernel
    exact Option.map_eq_some_iff.1 h
  obtain ⟨sub, hsub, hc⟩ := hcanceled
  exact ⟨hids, htabled, sub, hc, hsub, hkept _ sub hsub hc⟩

end Emulator

end Patronage
