import Patronage.Proofs.Agreement
import Patronage.Proofs.Footprint
import Patronage.Proofs.Transcript
/-!
# One customer for every subscriber

Requests to add a payment method read the subscriber, make a customer if there is none, and store
it; any number of others may do the same in between, at other processors too.  The store keeps the
first customer, and a request goes on only with what the store answered.  Main statements:

* `Manager.tells_addPaymentMethod` — what such a request asks after what it has heard;
* `System.user_of_record` — all records that it hears are its own subscriber's;
* `System.settles_on_one_customer` — payment methods are set up for the stored customer only,
  requests for another processor are refused, and later ones make no customer.
-/

namespace Patronage

open Manager

/-- The customer that an answer tells of. -/
def Heard.customer? (x : Heard) : Option Customer := x.record?.bind (·.2.customer)

/-- Whoever asks for a processor was told of a customer of another one. -/
def Estranged (p : Provider) (h : List Heard) : Prop :=
  ∃ x ∈ h, ∃ k, x.customer? = some k ∧ k.provider ≠ p

theorem not_estranged_of_none {p : Provider} {h : List Heard}
    (hnone : ∀ x ∈ h, x.customer? = none) : ¬Estranged p h := by
  rintro ⟨x, hx, k, hk, -⟩
  rw [hnone x hx] at hk
  cases hk

namespace Call

/-- The calls that engage a processor for a new customer or a payment method. -/
def Engages : Call → Prop
  | .createCustomer .. | .setUp .. => True
  | _ => False

/-- What a request to add a payment method may ask after what it has heard: nothing more once it was
told of a customer of another processor, a new customer only for a subscriber that was found
without one, and the payment method only for a customer that it was told of. -/
def AttachesAfter (c : Credentials) (p : Provider) (h : List Heard) (call : Call) : Prop :=
  ¬Estranged p h ∧
    match call with
    | .lookUp user _ => user = c.user
    | .createCustomer p' user _ => p' = p ∧ user = c.user ∧
      ∃ r, h = [⟨.lookUp c.user c.hmac, .ok (.found r)⟩] ∧ r.customer = none
    | .setCustomer user _ _ =>
      ∃ r, r.user = user ∧ ⟨.lookUp c.user c.hmac, .ok (.found r)⟩ ∈ h
    | .setUp p' id => p' = p ∧ ∃ x ∈ h, x.customer? = some ⟨id, p⟩
    | _ => False

end Call

namespace Request

/-- What a request may ask after what it has heard, as far as customers go. -/
def Asks : Request → List Heard → Call → Prop
  | .addPaymentMethod c p _, h, call => call.AttachesAfter c p h
  | _, _, call => ¬call.Engages

/-- How a request may end after what it has heard, as far as customers go. -/
def Ends : (r : Request) → List Heard → Except Fault r.Answer → Prop
  | .addPaymentMethod _ p _, h, res => Estranged p h →
    res = .error (.refusal .processorConflict "existing processor does not match")
  | _, _, _ => True

end Request

/-! ### Programs -/

namespace Manager

open Program

/-- A record tells of the customer that was heard of, if any was. -/
structure Told (h : List Heard) (s : Subscriber) : Prop where
  only : ∀ x ∈ h, ∀ k, x.customer? = some k → s.customer = some k
  heard : ∀ k, s.customer = some k → ∃ x ∈ h, x.customer? = some k

/-- Where nobody told of a customer before, the record that is handed out last does. -/
theorem told_concat {h : List Heard} (hnone : ∀ x ∈ h, x.customer? = none) {x : Heard}
    {user : Bytes} {s : Subscriber} (hx : x.record? = some (user, s)) : Told (h ++ [x]) s := by
  have hcustomer : x.customer? = s.customer := by simp [Heard.customer?, hx]
  constructor
  · intro y hy k hk
    obtain hy | hy := List.mem_append.1 hy
    · rw [hnone y hy] at hk
      cases hk
    · obtain rfl := List.mem_singleton.1 hy
      exact hcustomer.symm.trans hk
  · intro k hk
    exact ⟨x, by simp, hcustomer.trans hk⟩

theorem tells_getSubscriber (c : Credentials) (p : Provider) :
    (getSubscriber c).Tells (fun h call => call.AttachesAfter c p h)
      (fun h r => match r with
        | .ok s => h = [⟨.lookUp c.user c.hmac, .ok (.found s)⟩]
        | .error _ => ¬Estranged p h) [] := by
  have hask : (ask (.lookUp c.user c.hmac)).Tells (fun h call => call.AttachesAfter c p h)
      (fun h a => h = [⟨.lookUp c.user c.hmac, a⟩]) [] :=
    tells_ask ⟨not_estranged_of_none fun _ hx => absurd hx List.not_mem_nil, rfl⟩ fun _ => rfl
  refine Tells.within (hask.bind ?_ ?_) _
  · rintro h e rfl
    exact not_estranged_of_none fun x hx => by obtain rfl := List.mem_singleton.1 hx; rfl
  · rintro h l rfl
    cases l with
    | found s => exact rfl
    | notStored | wrongPassword =>
      exact not_estranged_of_none fun x hx => by obtain rfl := List.mem_singleton.1 hx; rfl

/-- Who is attached is told of the customer: the one that was found, or the one that the store has
once it was given one. -/
theorem tells_attach (c : Credentials) (p : Provider) (platform : Platform) (r : Subscriber) :
    (attach c p platform r).Tells (fun h call => call.AttachesAfter c p h)
      (fun h res => match res with
        | .ok s => Told h s
        | .error e => Estranged p h →
          e = .refusal .processorConflict "existing processor does not match")
      [⟨.lookUp c.user c.hmac, .ok (.found r)⟩] := by
  unfold attach
  split
  · rename_i customer hc
    split
    · exact told_concat (h := []) (fun _ hx => absurd hx List.not_mem_nil) rfl
    · exact fun _ => rfl
  · rename_i hnone
    -- nobody has been told of a customer until the store answers
    have hfound : ∀ x ∈ [(⟨.lookUp c.user c.hmac, .ok (.found r)⟩ : Heard)],
        x.customer? = none := by
      intro x hx
      obtain rfl := List.mem_singleton.1 hx
      exact hnone
    have hcreate : (ask (.createCustomer p c.user platform)).Tells
        (fun h call => call.AttachesAfter c p h)
        (fun h _ => (∀ x ∈ h, x.customer? = none) ∧
          ⟨.lookUp c.user c.hmac, .ok (.found r)⟩ ∈ h)
        [⟨.lookUp c.user c.hmac, .ok (.found r)⟩] := by
      refine tells_ask ⟨not_estranged_of_none hfound, rfl, rfl, r, rfl, hnone⟩ fun a => ⟨?_, ?_⟩
      · intro x hx
        obtain hx | hx := List.mem_append.1 hx
        · exact hfound x hx
        · obtain rfl := List.mem_singleton.1 hx
          cases a <;> rfl
      · exact List.mem_append_left _ (List.mem_singleton_self _)
    refine hcreate.bind (fun h e ⟨hall, _⟩ hestranged =>
      absurd hestranged (not_estranged_of_none hall)) fun h customer ⟨hall, hmem⟩ => ?_
    have hstore : (ask (.setCustomer r.user ⟨customer.id, p⟩ c.now)).Tells
        (fun h call => call.AttachesAfter c p h)
        (fun h res => match res with
          | .ok s => Told h s
          | .error _ => ¬Estranged p h) h := by
      refine tells_ask ⟨not_estranged_of_none hall, r, rfl, hmem⟩ fun a => ?_
      cases a with
      | ok s => exact told_concat hall rfl
      | error e =>
        refine not_estranged_of_none fun x hx => ?_
        obtain hx | hx := List.mem_append.1 hx
        · exact hall x hx
        · obtain rfl := List.mem_singleton.1 hx
          rfl
    refine (tells_persist hstore fun h e he _ => he).mono fun h res hres => ?_
    cases res with
    | ok s => exact hres
    | error e => exact fun hestranged => absurd hestranged hres

/-- A request to add a payment method goes on only with the customer that it was told of. -/
theorem tells_addPaymentMethod (c : Credentials) (p : Provider) (platform : Platform) :
    (addPaymentMethod c p platform).Tells (fun h call => call.AttachesAfter c p h)
      (fun h res => Estranged p h →
        res = .error (.refusal .processorConflict "existing processor does not match")) [] := by
  refine Tells.within ((tells_getSubscriber c p).bind
    (fun h e hh hestranged => absurd hestranged hh) ?_) _
  rintro h r rfl
  refine (tells_attach c p platform r).bind
    (fun h e hh hestranged => congrArg Except.error (hh hestranged)) fun h s htold => ?_
  split
  · rename_i customer hc
    split
    · rename_i hp
      -- whoever was told of is the customer of this processor, and it stays so
      have hsame : ¬Estranged p h := by
        rintro ⟨x, hx, k, hk, hne⟩
        obtain rfl := Option.some.inj ((htold.only x hx k hk).symm.trans hc)
        exact hne hp
      refine tells_ask ⟨hsame, rfl, ?_⟩ fun a hestranged => ?_
      · subst hp
        exact htold.heard customer hc
      · obtain ⟨x, hx, k, hk, hne⟩ := hestranged
        obtain hx | hx := List.mem_append.1 hx
        · exact absurd ⟨x, hx, k, hk, hne⟩ hsame
        · obtain rfl := List.mem_singleton.1 hx
          cases hk
    · exact fun _ => rfl
  · exact fun _ => rfl

end Manager

/-- What every request asks, and how it ends, after what it has heard. -/
theorem Request.tells_program (r : Request) : r.program.Tells r.Asks r.Ends [] := by
  cases r with
  | addPaymentMethod c p platform => exact tells_addPaymentMethod c p platform
  | _ =>
    refine Program.tells_of_uses (uses_program _) fun _ call hmakes hengages => ?_
    cases call with
    | createCustomer | setUp => simp [Makes, Call.Registers, Call.Cancels, Call.Moves, Call.Opens,
        Call.Redeems] at hmakes
    | _ => exact hengages

/-- A record that such a request hears is of the subscriber that it names, or of one whose record it
was handed out for that name. -/
theorem Call.AttachesAfter.user {c : Credentials} {p : Provider} {h : List Heard} {x : Heard}
    (hx : x.call.AttachesAfter c p h) {user : Bytes} {r : Subscriber}
    (hr : x.record? = some (user, r)) :
    user = c.user ∨ ∃ found : Subscriber, found.user = user ∧
      ⟨.lookUp c.user c.hmac, .ok (.found found)⟩ ∈ h := by
  obtain ⟨call, answer⟩ := x
  have hcall := hx.2
  clear hx
  dsimp only at hcall
  cases call with
  | lookUp user' hmac =>
    match answer, hr with
    | .ok (.found s), hr =>
      obtain ⟨rfl, -⟩ := Prod.mk.inj (Option.some.inj hr)
      exact .inl hcall
  | create => exact hcall.elim
  | setCustomer user' k now =>
    match answer, hr with
    | .ok s, hr =>
      obtain ⟨rfl, -⟩ := Prod.mk.inj (Option.some.inj hr)
      exact .inr hcall
  | _ => cases hr

/-! ### Systems -/

namespace System

open Manager

variable {w : World}

/-- A customer stays the subscriber's. -/
theorem customer?_play {s : System} {user : Bytes} {k : Customer}
    (h : s.course.world.customer? user = some k) (moves : List (Move (Rules × Luck))) :
    (s.play .inMemory moves).course.world.customer? user = some k := by
  obtain ⟨r, hr, hk⟩ := Option.bind_eq_some_iff.1 h
  obtain ⟨ops, hops⟩ := s.store_play moves
  obtain ⟨r', hr', hcontinues⟩ := Store.continues_run hr ops
  rw [World.customer?, hops, hr']
  exact hcontinues.customer_eq hk

theorem backed_transcript (hw : w.Fresh) (moves : List (Move (Rules × Luck))) :
    Backed ((start w).play .inMemory moves).course.world
      ((start w).transcript .inMemory moves) := by
  have hvalid : w.store.Valid := hw.store ▸ Store.valid_empty
  exact (backed_play (s := start w) hvalid (fun _ he => absurd he List.not_mem_nil) moves).2

/-- All records that a request to add a payment method hears are its own subscriber's. -/
theorem user_of_record (hw : w.Fresh) {moves : List (Move (Rules × Luck))} {e : Exchange}
    (he : e ∈ (start w).transcript .inMemory moves) {c : Credentials} {p : Provider}
    {platform : Platform} (hrequest : ((start w).play .inMemory moves).request? e.task =
      some (.addPaymentMethod c p platform)) {user : Bytes} {r : Subscriber}
    (hr : e.heard.record? = some (user, r)) : user = c.user := by
  obtain ⟨before, m, later, rfl, hm⟩ := mem_transcript.1 he
  obtain ⟨request, hbefore, hasks⟩ :=
    (recorded_play Request.tells_program w before).suits hm
  have hsame : request = .addPaymentMethod c p platform := by
    rw [play_append] at hrequest
    exact Option.some.inj ((request?_play hbefore (m :: later)).symm.trans hrequest)
  subst hsame
  obtain huser | ⟨found, hfound, hheard⟩ := Call.AttachesAfter.user hasks hr
  · exact huser
  · -- what was handed out for a name is the record filed under it
    obtain ⟨e₀, he₀, -, h₀⟩ := mem_heardBy.1 hheard
    have hrecord : e₀.heard.record? = some (c.user, found) := by rw [h₀]; rfl
    exact hfound.symm.trans (backed_transcript hw before e₀ he₀ hrecord).1

/-- A customer that a request to add a payment method was told of is stored. -/
theorem customer?_of_heard (hw : w.Fresh) {moves : List (Move (Rules × Luck))} {e : Exchange}
    (he : e ∈ (start w).transcript .inMemory moves) {c : Credentials} {p : Provider}
    {platform : Platform} (hrequest : ((start w).play .inMemory moves).request? e.task =
      some (.addPaymentMethod c p platform)) {k : Customer} (hk : e.heard.customer? = some k) :
    ((start w).play .inMemory moves).course.world.customer? c.user = some k := by
  obtain ⟨⟨user, r⟩, hr, hcustomer⟩ := Option.bind_eq_some_iff.1 hk
  obtain rfl := user_of_record hw he hrequest hr
  obtain ⟨-, r', hr', hcontinues⟩ := backed_transcript hw moves e he hr
  rw [World.customer?, hr']
  exact hcontinues.customer_eq hcustomer

/-- A payment method is set up for the customer that is stored then. -/
theorem customer?_of_setUp (hw : w.Fresh) {moves : List (Move (Rules × Luck))} {e : Exchange}
    (he : e ∈ (start w).transcript .inMemory moves) {p : Provider} {id : String}
    (hcall : e.heard.call = .setUp p id) :
    ∃ c platform, ((start w).play .inMemory moves).request? e.task =
        some (.addPaymentMethod c p platform) ∧
      e.met.customer? c.user = some ⟨id, p⟩ ∧
      ((start w).play .inMemory moves).course.world.customer? c.user = some ⟨id, p⟩ := by
  obtain ⟨before, m, later, rfl, hm⟩ := mem_transcript.1 he
  obtain ⟨request, hbefore, hasks⟩ :=
    (recorded_play Request.tells_program w before).suits hm
  rw [hcall] at hasks
  cases request with
  | addPaymentMethod c p' platform =>
    obtain ⟨-, rfl, x, hx, hxk⟩ := hasks
    obtain ⟨e₀, he₀, htask, rfl⟩ := mem_heardBy.1 hx
    have hstored := customer?_of_heard hw he₀ (htask.symm ▸ hbefore) hxk
    have hmet : e.met.customer? c.user =
        ((start w).play .inMemory before).course.world.customer? c.user := by
      obtain ⟨_, _, _, _, _, _, hmet, -⟩ := exchange?_eq_some hm
      rw [hmet]
      rfl
    refine ⟨c, platform, ?_, hmet.trans hstored, ?_⟩
    · rw [play_append]
      exact request?_play hbefore _
    · rw [play_append]
      exact customer?_play hstored _
  | _ => exact absurd trivial hasks

/-- A request that was told of a customer of another processor is refused. -/
theorem settles_of_heard {moves : List (Move (Rules × Luck))} {e : Exchange}
    (he : e ∈ (start w).transcript .inMemory moves) {c : Credentials} {p : Provider}
    {platform : Platform} (hrequest : ((start w).play .inMemory moves).request? e.task =
      some (.addPaymentMethod c p platform)) {k : Customer} (hk : e.heard.customer? = some k)
    (hne : k.provider ≠ p) :
    ∃ t, ((start w).play .inMemory moves).tasks[e.task]? = some t ∧
      t.rest.Settles (.error (.refusal .processorConflict "existing processor does not match")) := by
  obtain ⟨t, ht, hrequest⟩ := Option.map_eq_some_iff.1 hrequest
  have htells := (recorded_play Request.tells_program w moves).tells ht
  have hestranged : Estranged p (heardBy e.task ((start w).transcript .inMemory moves)) :=
    ⟨e.heard, mem_heardBy.2 ⟨e, he, rfl, rfl⟩, k, hk, hne⟩
  obtain ⟨request, rest, ctx⟩ := t
  dsimp only at hrequest
  subst hrequest
  exact ⟨_, ht, htells.settles (fun call hcall => hcall.1 hestranged) fun r hr => hr hestranged⟩

/-- Once a subscriber has a customer, whoever asks first then makes no other one for it. -/
theorem not_createCustomer {before after : List (Move (Rules × Luck))} {user : Bytes}
    {k : Customer}
    (hk : ((start w).play .inMemory before).course.world.customer? user = some k) {e : Exchange}
    (he : e ∈ ((start w).play .inMemory before).transcript .inMemory after)
    (hnew : ∀ e₀ ∈ (start w).transcript .inMemory before, e₀.task ≠ e.task) (p : Provider)
    (platform : Platform) : e.heard.call ≠ .createCustomer p user platform := by
  intro hcall
  obtain ⟨between, m, later, rfl, hm⟩ := mem_transcript.1 he
  rw [← play_append] at hm
  obtain ⟨request, -, hasks⟩ :=
    (recorded_play Request.tells_program w (before ++ between)).suits hm
  rw [hcall] at hasks
  cases request with
  | addPaymentMethod c p' platform' =>
    -- it was told of the subscriber without a customer, and that was after all this
    obtain ⟨-, -, rfl, r, hheard, hnone⟩ := hasks
    have hmem : ⟨.lookUp c.user c.hmac, .ok (.found r)⟩ ∈ heardBy e.task
        ((start w).transcript .inMemory (before ++ between)) := by simp [hheard]
    obtain ⟨e₀, he₀, htask, h₀⟩ := mem_heardBy.1 hmem
    rw [transcript_append] at he₀
    obtain he₀ | he₀ := List.mem_append.1 he₀
    · exact hnew e₀ he₀ htask
    · obtain ⟨first, m₀, rest, rfl, hm₀⟩ := mem_transcript.1 he₀
      have hrecord : e₀.heard.record? = some (c.user, r) := by rw [h₀]; rfl
      have hfind := find?_of_exchange hm₀ hrecord
      have hstays := customer?_play hk (first ++ [m₀])
      rw [play_append, play_cons, play_nil, World.customer?, hfind] at hstays
      rw [Option.bind_some, hnone] at hstays
      cases hstays
  | _ => exact absurd trivial hasks

/-- However requests take turns, those to add a payment method settle on one customer: payment
methods are set up for the stored customer only and so all for the same one, a request that is told
of a customer of another processor is refused, and once there is a customer, whoever asks first then
makes no other one. -/
theorem settles_on_one_customer (hw : w.Fresh) (before after : List (Move (Rules × Luck))) :
    let s₀ := (start w).play .inMemory before
    let s := s₀.play .inMemory after
    let es := (start w).transcript .inMemory (before ++ after)
    (∀ e ∈ es, ∀ p id, e.heard.call = .setUp p id →
      ∃ c platform, s.request? e.task = some (.addPaymentMethod c p platform) ∧
        e.met.customer? c.user = some ⟨id, p⟩) ∧
    (∀ e₁ ∈ es, ∀ e₂ ∈ es, ∀ p₁ p₂ id₁ id₂ c₁ c₂ q₁ q₂ platform₁ platform₂,
      e₁.heard.call = .setUp p₁ id₁ → e₂.heard.call = .setUp p₂ id₂ →
      s.request? e₁.task = some (.addPaymentMethod c₁ q₁ platform₁) →
      s.request? e₂.task = some (.addPaymentMethod c₂ q₂ platform₂) →
      c₁.user = c₂.user → p₁ = p₂ ∧ id₁ = id₂) ∧
    (∀ e ∈ es, ∀ c p platform k, s.request? e.task = some (.addPaymentMethod c p platform) →
      e.heard.customer? = some k → k.provider ≠ p →
      s.course.world.customer? c.user = some k ∧
      ∃ t, s.tasks[e.task]? = some t ∧ t.rest.Settles
        (.error (.refusal .processorConflict "existing processor does not match"))) ∧
    ∀ user k, s₀.course.world.customer? user = some k →
      ∀ e ∈ s₀.transcript .inMemory after,
        (∀ e₀ ∈ (start w).transcript .inMemory before, e₀.task ≠ e.task) →
        ∀ p platform, e.heard.call ≠ .createCustomer p user platform := by
  intro s₀ s es
  have hs : s = (start w).play .inMemory (before ++ after) := (play_append _ _ _ _).symm
  rw [hs]
  refine ⟨fun e he p id hcall => ?_, ?_, ?_, fun user k hk e he hnew p platform =>
    not_createCustomer hk he hnew p platform⟩
  · obtain ⟨c, platform, hrequest, hmet, -⟩ := customer?_of_setUp hw he hcall
    exact ⟨c, platform, hrequest, hmet⟩
  · intro e₁ he₁ e₂ he₂ p₁ p₂ id₁ id₂ c₁ c₂ q₁ q₂ platform₁ platform₂ h₁ h₂ hr₁ hr₂ huser
    obtain ⟨c₁', _, hr₁', -, hk₁⟩ := customer?_of_setUp hw he₁ h₁
    obtain ⟨c₂', _, hr₂', -, hk₂⟩ := customer?_of_setUp hw he₂ h₂
    obtain ⟨rfl, -, -⟩ := Request.addPaymentMethod.inj (Option.some.inj (hr₁.symm.trans hr₁'))
    obtain ⟨rfl, -, -⟩ := Request.addPaymentMethod.inj (Option.some.inj (hr₂.symm.trans hr₂'))
    rw [huser] at hk₁
    obtain ⟨hid, hp⟩ := Customer.mk.inj (Option.some.inj (hk₁.symm.trans hk₂))
    exact ⟨hp, hid⟩
  · intro e he c p platform k hrequest hk hne
    exact ⟨customer?_of_heard hw he hrequest hk, settles_of_heard he hrequest hk hne⟩

end System

namespace Sample

/-- The shipped settings with two processors and no subscribers. -/
def twoProcessors : World :=
  { World.shipped with registry :=
      ⟨.ofList [(.stripe, .ofSettings .stripe .shipped),
        (.braintree, .ofSettings .braintree .shipped)]⟩ }

theorem fresh_twoProcessors : twoProcessors.Fresh where
  store := rfl
  ledger := rfl
  registry {p e} he := by
    have hfind : twoProcessors.registry.find? p =
        if .stripe = p then some (.ofSettings .stripe .shipped)
        else if .braintree = p then some (.ofSettings .braintree .shipped) else none := by
      cases p <;> rfl
    rw [hfind] at he
    split at he
    · obtain rfl := Option.some.inj he
      exact ⟨rfl, rfl, rfl⟩
    · split at he
      · obtain rfl := Option.some.inj he
        exact ⟨rfl, rfl, rfl⟩
      · cases he

/-- The subscriber becomes known and asks for a payment method at two processors. -/
def arrivals : List (Move (Rules × Luck)) :=
  [.arrive (.updateSubscriber credentials), .arrive (.addPaymentMethod credentials .stripe .ios),
    .arrive (.addPaymentMethod credentials .braintree .android)]

/-- The requests for a payment method take turns. -/
def race : List (Move (Rules × Luck)) :=
  List.replicate 32 (.advance 0 asShipped) ++
    (List.replicate 32 [.advance 1 asShipped, .advance 2 asShipped]).flatten

end Sample

open Sample in
/-- Both requests make a customer, and the one whose customer is stored second is refused. -/
theorem System.settles_on_one_customer_of_race :
    let s := ((start twoProcessors).play .inMemory arrivals).play .inMemory race
    let es := (start twoProcessors).transcript .inMemory (arrivals ++ race)
    (es.filter fun e => e.heard.call matches .createCustomer ..).length = 2 ∧
    s.course.world.customer? credentials.user = some customer ∧
      ∃ t, s.tasks[2]? = some t ∧ t.rest.Settles
        (.error (.refusal .processorConflict "existing processor does not match")) := by
  intro s es
  have hmade : (es.filter fun e => e.heard.call matches .createCustomer ..).length = 2 := by
    decide +kernel
  have htold : (es.any fun e => e.task = 2 ∧ e.heard.customer? = some customer) = true := by
    decide +kernel
  obtain ⟨e, he, hand⟩ := List.any_eq_true.1 htold
  obtain ⟨htask, hk⟩ := of_decide_eq_true hand
  have harrived : ((start twoProcessors).play .inMemory arrivals).request? 2 =
      some (.addPaymentMethod credentials .braintree .android) := rfl
  have hrequest : s.request? e.task =
      some (.addPaymentMethod credentials .braintree .android) := by
    rw [htask]
    exact request?_play (v := .inMemory) harrived race
  obtain ⟨-, -, h, -⟩ := settles_on_one_customer fresh_twoProcessors arrivals race
  obtain ⟨hstored, hsettles⟩ :=
    h e he credentials .braintree .android customer hrequest hk (by decide)
  rw [htask] at hsettles
  dsimp only [s]
  exact ⟨hmade, hstored, hsettles⟩

end Patronage
