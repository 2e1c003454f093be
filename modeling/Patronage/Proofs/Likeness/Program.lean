import Patronage.Proofs.Likeness.World
/-!
# Programs that are alike

Two programs are alike if they make calls that are alike, in the same order and with the same log
fields and events around them, and go on alike after answers that are alike.  The programs of the
manager look at identities and authentication tags only by asking the store, and at moments only by
handing them on or counting seconds from 1970; so for subscribers that go together they are alike.
Main statements:

* `Program.Like.bind` — programs one after the other;
* `Request.like_program` — the programs of requests that are alike.
-/

namespace Patronage

variable {L : Likeness}

/-- Two programs that make calls that are alike and go on alike after answers that are alike. -/
inductive Program.Like (L : Likeness) {α α' : Type} (A : α → α' → Prop) :
    Program α → Program α' → Prop
  | done {r : Except Fault α} {r' : Except Fault α'} (h : Twin A r r') :
    Like L A (.done r) (.done r')
  | call {c c' : Call} {R : c.Answer → c'.Answer → Prop} {next : Except Fault c.Answer → Program α}
    {next' : Except Fault c'.Answer → Program α'} (hc : c.Like L c' R)
    (h : ∀ {a a'}, Twin R a a' → Like L A (next a) (next' a')) :
    Like L A (.call c next) (.call c' next')
  | enter (fields : Log.Fields Log.Field) {next : Log.Context.Saved Log.Field → Program α}
    {next' : Log.Context.Saved Log.Field → Program α'}
    (h : ∀ saved, Like L A (next saved) (next' saved)) :
    Like L A (.enter fields next) (.enter fields next')
  | leave (saved : Log.Context.Saved Log.Field) {next : Program α} {next' : Program α'}
    (h : Like L A next next') : Like L A (.leave saved next) (.leave saved next')
  | log (e : Log.Entry) {next : Program α} {next' : Program α'} (h : Like L A next next') :
    Like L A (.log e next) (.log e next')

namespace Program.Like

variable {α α' β β' : Type} {A : α → α' → Prop} {B : β → β' → Prop} {p : Program α}
  {p' : Program α'}

theorem error (f : Fault) : Program.Like L A (.done (.error f)) (.done (.error f)) :=
  .done (.error f)

theorem andThen {f : Except Fault α → Program β} {f' : Except Fault α' → Program β'}
    (h : p.Like L A p') (hf : ∀ {r r'}, Twin A r r' → (f r).Like L B (f' r')) :
    (p.andThen f).Like L B (p'.andThen f') := by
  induction h with
  | done h => exact hf h
  | call hc _ ih => exact .call hc fun ha => ih ha
  | enter fields _ ih => exact .enter fields ih
  | leave saved _ ih => exact .leave saved ih
  | log e _ ih => exact .log e ih

/-- Programs one after the other. -/
theorem bind {f : α → Program β} {f' : α' → Program β'} (h : p.Like L A p')
    (hf : ∀ {a a'}, A a a' → (f a).Like L B (f' a')) : (p >>= f).Like L B (p' >>= f') :=
  h.andThen fun hr => by
    cases hr with
    | ok ha => exact hf ha
    | error e => exact .error e

theorem within (fields : Log.Fields Log.Field) (h : p.Like L A p') :
    (p.within fields).Like L A (p'.within fields) :=
  .enter fields fun saved => h.andThen fun hr => .leave saved (.done hr)

theorem ask {c c' : Call} {R : c.Answer → c'.Answer → Prop} (hc : c.Like L c' R) :
    (Program.ask c).Like L R (Program.ask c') :=
  .call hc fun h => .done h

/-- Results are alike if they are the same. -/
theorem ofExcept {r r' : Except Fault α} (h : r = r') :
    (Program.ofExcept r).Like L (· = ·) (Program.ofExcept r') :=
  .done (.of_eq h)

end Program.Like

/-- Two subscribers that go together, at moments that are alike. -/
structure Credentials.Like (L : Likeness) (c c' : Credentials) : Prop where
  user : L.user c.user c'.user
  hmac : L.hmac c.hmac c'.hmac
  now : c.now.Like L c'.now

/-! ### The manager -/

namespace Manager

variable {α α' : Type} {A : α → α' → Prop} {c c' : Credentials} {p : Program α} {p' : Program α'}

theorem like_operation (name : String) (hc : c.Like L c') (h : p.Like L A p') :
    (operation name c p).Like L A (operation name c' p') := by
  unfold operation
  rw [L.tag_eq hc.user]
  exact h.within _

theorem like_persist (h : p.Like L A p') : (persist p).Like L A (persist p') :=
  h.andThen fun hr => by
    cases hr with
    | ok ha => exact .done (.ok ha)
    | error f => cases f <;> exact .error _

theorem like_orRequiresAction (h : p.Like L A p') :
    (orRequiresAction p).Like L A (orRequiresAction p') :=
  h.andThen fun hr => by
    cases hr with
    | ok ha => exact .done (.ok ha)
    | error f =>
      cases f with
      | processor e =>
        dsimp only
        split <;> exact .error _
      | _ => exact .error _

theorem like_updateSubscriber (hc : c.Like L c') :
    (updateSubscriber c).Like L (· = ·) (updateSubscriber c') := by
  refine like_operation _ hc ((Program.Like.ask (.lookUp hc.user hc.hmac)).bind fun hl => ?_)
  cases hl with
  | wrongPassword => exact .error _
  | notStored =>
    refine (Program.Like.ask (.create hc.user hc.hmac hc.now)).bind fun hs => ?_
    cases hs with
    | none => exact .error _
    | some _ => exact .done (.ok rfl)
  | found _ => exact like_persist (.ask (.accessedAt hc.user hc.now))

theorem like_getSubscriber (hc : c.Like L c') :
    (getSubscriber c).Like L (Subscriber.Like L) (getSubscriber c') := by
  refine like_operation _ hc ((Program.Like.ask (.lookUp hc.user hc.hmac)).bind fun hl => ?_)
  cases hl with
  | wrongPassword | notStored => exact .error _
  | found hs => exact .done (.ok hs)

theorem like_cancelRemote (customer : Customer) :
    (cancelRemote customer).Like L (· = ·) (cancelRemote customer) := by
  refine (Program.Like.ask (.processorOf customer.provider)).bind fun _ => ?_
  refine (Program.Like.ask (.cancelAll customer.provider customer.id)).andThen fun hr => ?_
  cases hr with
  | ok ha => exact .done (.ok ha)
  | error f =>
    cases f with
    | processor e =>
      dsimp only
      split
      · exact .log _ (.done (.ok rfl))
      · exact .error _
    | _ => exact .error _

theorem like_deleteSubscriber (hc : c.Like L c') :
    (deleteSubscriber c).Like L (· = ·) (deleteSubscriber c') := by
  refine like_operation _ hc ((Program.Like.ask (.lookUp hc.user hc.hmac)).bind fun hl => ?_)
  have hcancel : (persist (.ask (.canceledAt c.user c.now))).Like L (· = ·)
      (persist (.ask (.canceledAt c'.user c'.now))) :=
    like_persist (.ask (.canceledAt hc.user hc.now))
  cases hl with
  | wrongPassword | notStored => exact .error _
  | found hs =>
    dsimp only
    rw [hs.customer]
    split
    · exact (like_cancelRemote _).bind fun _ => hcancel
    · exact hcancel

theorem like_attach (hc : c.Like L c') (p : Provider) (platform : Platform) {s s' : Subscriber}
    (hs : s.Like L s') : (attach c p platform s).Like L (Subscriber.Like L)
      (attach c' p platform s') := by
  unfold attach
  rw [hs.customer]
  split
  · split
    · exact .done (.ok hs)
    · exact .error _
  · refine (Program.Like.ask (.createCustomer p hc.user platform)).bind fun {a a'} ha => ?_
    rw [ha]
    exact like_persist (.ask (.setCustomer hs.user _ hc.now))

theorem like_addPaymentMethod (hc : c.Like L c') (p : Provider) (platform : Platform) :
    (addPaymentMethod c p platform).Like L (· = ·) (addPaymentMethod c' p platform) := by
  refine like_operation _ hc ((like_getSubscriber hc).bind fun hs => ?_)
  refine (like_attach hc p platform hs).bind fun hs => ?_
  rw [hs.customer]
  split
  · split
    · exact .ask (.setUp p _)
    · exact .error _
  · exact .error _

theorem like_changeLevel (hc : c.Like L c') (p : Provider) (choice : LevelChoice) (id : String) :
    (changeLevel c p choice id).Like L (· = ·) (changeLevel c' p choice id) := by
  refine (Program.Like.ask (.subscription p id)).bind fun {s s'} hs => ?_
  refine (Program.Like.ask (.tier p hs)).bind fun {current current'} hcurrent => ?_
  obtain rfl := hcurrent
  refine (Program.Like.ofExcept rfl).bind fun {wanted wanted'} hwanted => ?_
  obtain rfl := hwanted
  split
  · exact .log _ (.done (.ok rfl))
  · refine (Program.Like.ask (.allows _ _)).bind fun {allowed allowed'} hallowed => ?_
    obtain rfl := hallowed
    split
    · refine (Program.Like.ask (.updateSubscription p hs _ _ _)).bind fun {id id'} hid => ?_
      obtain rfl := hid
      exact like_persist (.ask (.levelChanged hc.user hc.now _ _))
    · exact .error _

theorem like_subscribe (hc : c.Like L c') (p : Provider) (choice : LevelChoice)
    {s s' : Subscriber} (hs : s.Like L s') :
    (subscribe c p choice s).Like L (· = ·) (subscribe c' p choice s') := by
  -- of the previous creation only the seconds count
  have hopening : ∀ (customer : Customer) {last last' : Int}, last = last' → Program.Like L (· = ·)
      (orRequiresAction (.ask (.createSubscription p customer.id choice.templateId choice.level
        last)) >>= fun id => persist (.ask (.subscriptionCreated c.user id c.now choice.level)))
      (orRequiresAction (.ask (.createSubscription p customer.id choice.templateId choice.level
        last')) >>= fun id => persist (.ask (.subscriptionCreated c'.user id c'.now
          choice.level))) := by
    rintro customer last _ rfl
    refine (like_orRequiresAction (.ask (.createSubscription p _ _ _ last))).bind
      fun {id id'} hid => ?_
    obtain rfl := hid
    exact like_persist (.ask (.subscriptionCreated hc.user id hc.now _))
  unfold subscribe
  rw [hs.customer]
  split
  · exact .error _
  · split
    · obtain ⟨hn, hn'⟩ | ⟨m, m', hm, hm', hl⟩ := OptionRel.none_or_some hs.subscriptionCreatedAt
      · rw [hn, hn']
        exact hopening _ rfl
      · rw [hm, hm']
        refine (Program.Like.ofExcept (by rw [hl.epochSeconds])).bind fun hlast => ?_
        exact hopening _ hlast
    · exact .error _

theorem like_updateLevel (hc : c.Like L c') (p : Provider) (choice : LevelChoice)
    {s s' : Subscriber} (hs : s.Like L s') :
    (updateLevel c s p choice).Like L (· = ·) (updateLevel c' s' p choice) := by
  refine like_operation _ hc ?_
  rw [hs.subscriptionId]
  split
  · exact like_changeLevel hc p choice _
  · exact like_subscribe hc p choice hs

theorem like_readRequest (bytes : Bytes) :
    (readRequest bytes).Like L (· = ·) (readRequest bytes) :=
  (Program.Like.ask (.decode bytes)).andThen fun hr => by
    cases hr with
    | ok ha => exact .done (.ok ha)
    | error f => cases f <;> exact .error _

theorem like_sign (r : CredentialRequest) (expiration level : Int) :
    (sign r expiration level).Like L (· = ·) (sign r expiration level) :=
  (Program.Like.ask (.issue r expiration level)).andThen fun hr => by
    cases hr with
    | ok ha => exact .done (.ok ha)
    | error f => cases f <;> exact .error _

/-- Two receipts with the same credential for payments that are alike. -/
structure Receipt.Like (L : Likeness) (r r' : Receipt) : Prop where
  credential : r.credential = r'.credential
  item : r.item.Like L r'.item
  provider : r.provider = r'.provider

theorem like_createReceipt (hc : c.Like L c') (bytes : Bytes) :
    (createReceipt c bytes).Like L (Receipt.Like L) (createReceipt c' bytes) := by
  refine like_operation _ hc ((like_getSubscriber hc).bind fun {s s'} hs => ?_)
  rw [hs.subscriptionId]
  split
  · exact .error _
  · refine (like_readRequest bytes).bind fun {request request'} hrequest => ?_
    obtain rfl := hrequest
    rw [hs.customer]
    split
    · exact .error _
    · rename_i customer _
      refine (Program.Like.ask (.processorOf _)).bind fun _ => ?_
      refine (Program.Like.ask (.receiptItem _ _)).bind fun {item item'} hitem => ?_
      refine (Program.Like.ofExcept rfl).bind fun {print print'} hprint => ?_
      obtain rfl := hprint
      have hentry : Issuance.Like L ⟨item.id, customer.provider, print, c.now⟩
          ⟨item'.id, customer.provider, print, c'.now⟩ := ⟨hitem.id, rfl, rfl, hc.now⟩
      refine (Program.Like.ask (.record hentry)).bind fun {noted noted'} hnoted => ?_
      rw [hnoted.1, hnoted.2.fingerprint, hitem.id, hitem.level]
      split
      · exact .error _
      · refine (Program.Like.ask (.expiration hitem)).bind fun {expires expires'} hexpires => ?_
        refine (Program.Like.ofExcept (by rw [hexpires.epochSeconds])).bind
          fun {seconds seconds'} hseconds => ?_
        obtain rfl := hseconds
        refine (like_sign request seconds _).bind fun {credential credential'} hcredential => ?_
        obtain rfl := hcredential
        refine (Program.Like.ofExcept ?_).bind fun {event event'} hevent => ?_
        · rw [Log.Audit.receiptIssued, L.subscriber_eq hc.user, Log.Audit.receiptIssued]
        · obtain rfl := hevent
          exact .log _ (.done (.ok ⟨rfl, hitem, rfl⟩))

end Manager

/-! ### Requests -/

/-- Two requests for the same, of subscribers that go together, and how their results are to be
alike. -/
inductive Request.Like (L : Likeness) : (r r' : Request) → (r.Answer → r'.Answer → Prop) → Prop
  | updateSubscriber {c c' : Credentials} (hc : c.Like L c') :
    Like L (.updateSubscriber c) (.updateSubscriber c') (· = ·)
  | getSubscriber {c c' : Credentials} (hc : c.Like L c') :
    Like L (.getSubscriber c) (.getSubscriber c') (Subscriber.Like L)
  | deleteSubscriber {c c' : Credentials} (hc : c.Like L c') :
    Like L (.deleteSubscriber c) (.deleteSubscriber c') (· = ·)
  | addPaymentMethod {c c' : Credentials} (hc : c.Like L c') (p : Provider) (platform : Platform) :
    Like L (.addPaymentMethod c p platform) (.addPaymentMethod c' p platform) (· = ·)
  | updateLevel {c c' : Credentials} {s s' : Subscriber} (hc : c.Like L c') (hs : s.Like L s')
    (p : Provider) (choice : Manager.LevelChoice) :
    Like L (.updateLevel c s p choice) (.updateLevel c' s' p choice) (· = ·)
  | readAndUpdateLevel {c c' : Credentials} (hc : c.Like L c') (p : Provider)
    (choice : Manager.LevelChoice) :
    Like L (.readAndUpdateLevel c p choice) (.readAndUpdateLevel c' p choice) (· = ·)
  | createReceipt {c c' : Credentials} (hc : c.Like L c') (bytes : Bytes) :
    Like L (.createReceipt c bytes) (.createReceipt c' bytes) (Manager.Receipt.Like L)

/-- The programs of requests that are alike. -/
theorem Request.like_program {r r' : Request} {A : r.Answer → r'.Answer → Prop}
    (h : r.Like L r' A) : r.program.Like L A r'.program := by
  cases h with
  | updateSubscriber hc => exact Manager.like_updateSubscriber hc
  | getSubscriber hc => exact Manager.like_getSubscriber hc
  | deleteSubscriber hc => exact Manager.like_deleteSubscriber hc
  | addPaymentMethod hc p platform => exact Manager.like_addPaymentMethod hc p platform
  | updateLevel hc hs p choice => exact Manager.like_updateLevel hc p choice hs
  | readAndUpdateLevel hc p choice =>
    exact (Manager.like_getSubscriber hc).bind fun hs => Manager.like_updateLevel hc p choice hs
  | createReceipt hc bytes => exact Manager.like_createReceipt hc bytes

end Patronage
