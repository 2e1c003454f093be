import Patronage.Proofs.Conduct
/-!
# The calls that operations make

Each operation makes calls of a few kinds only, whatever they answer.  Whoever shows that calls of
these kinds keep something has shown that the operation does.  Main statements:

* `Manager.uses_updateSubscriber`, `Manager.uses_deleteSubscriber`, `Manager.uses_changeLevel`,
  `Manager.uses_createReceipt` — the calls of each operation;
* `Request.uses_program` — the calls of every request.
-/

namespace Patronage

namespace Call

/-- The calls that make a subscriber known. -/
def Registers : Call → Prop
  | .lookUp .. | .create .. | .accessedAt .. => True
  | _ => False

/-- The calls that cancel what a customer has at its processor. -/
def Stops : Call → Prop
  | .processorOf .. | .cancelAll .. => True
  | _ => False

/-- The calls that cancel a subscriber. -/
def Cancels : Call → Prop
  | .lookUp .. | .processorOf .. | .cancelAll .. | .canceledAt .. => True
  | _ => False

/-- The calls that give a subscriber a customer and start adding a payment method. -/
def Attaches : Call → Prop
  | .lookUp .. | .createCustomer .. | .setCustomer .. | .setUp .. => True
  | _ => False

/-- The calls that move a subscription. -/
def Moves : Call → Prop
  | .subscription .. | .tier .. | .allows .. | .updateSubscription .. | .levelChanged .. => True
  | _ => False

/-- The calls that make a subscription. -/
def Opens : Call → Prop
  | .createSubscription .. | .subscriptionCreated .. => True
  | _ => False

/-- The calls that redeem a payment. -/
def Redeems : Call → Prop
  | .lookUp .. | .decode .. | .processorOf .. | .receiptItem .. | .record .. | .expiration ..
  | .issue .. => True
  | _ => False

theorem Stops.cancels {c : Call} (h : c.Stops) : c.Cancels := by
  cases c with
  | processorOf | cancelAll => trivial
  | _ => exact h.elim

end Call

namespace Manager

open Program

theorem uses_getSubscriber {P : Call → Prop} (c : Credentials) (h : P (.lookUp c.user c.hmac)) :
    (getSubscriber c).Uses P := by
  refine Uses.within (Uses.bind (uses_ask h) fun l => ?_) _
  cases l <;> trivial

theorem uses_persist {P : Call → Prop} {α : Type} {p : Program α} (h : p.Uses P) :
    (persist p).Uses P := by
  refine h.andThen fun r => ?_
  split <;> trivial

section

variable {ι α : Type} {D : Discipline ι} {p : Program α} {s : Course}

/-- What the store refuses is classified; everything else stays as it is. -/
theorem keeps_persist (hs : D.inv s) (h : p.Keeps D (fun _ _ => True) s) :
    (persist p).Keeps D (fun _ _ => True) s := by
  refine h.andThen hs fun r _ _ _ => ?_
  split <;> exact fun _ _ => trivial

/-- What the store answers with is handed on. -/
theorem keeps_persist_ok {post : α → Course → Prop} (hs : D.inv s)
    (stable : ∀ {a s s'}, D.Meets s s' → post a s → post a s') (h : p.Keeps D (onOk post) s) :
    (persist p).Keeps D (onOk post) s := by
  refine h.andThen hs fun r s' _ hr => ?_
  split
  · exact keeps_error
  · exact fun s'' h' a ha => stable h' (hr a ha)

/-- What a processor answers with is handed on. -/
theorem keeps_orRequiresAction {post : α → Course → Prop} (hs : D.inv s)
    (stable : ∀ {a s s'}, D.Meets s s' → post a s → post a s') (h : p.Keeps D (onOk post) s) :
    (orRequiresAction p).Keeps D (onOk post) s := by
  refine h.andThen hs fun r s' _ hr => ?_
  split
  · split <;> exact keeps_error
  · exact fun s'' h' a ha => stable h' (hr a ha)

end

theorem uses_updateSubscriber (c : Credentials) : (updateSubscriber c).Uses Call.Registers := by
  refine Uses.within (Uses.bind (uses_ask trivial) fun l => ?_) _
  cases l with
  | wrongPassword => trivial
  | notStored =>
    refine Uses.bind (uses_ask trivial) fun created => ?_
    split <;> trivial
  | found s => exact uses_persist (uses_ask trivial)

theorem uses_cancelRemote (customer : Customer) : (cancelRemote customer).Uses Call.Stops := by
  refine Uses.bind (uses_ask trivial) fun _ => (uses_ask trivial).andThen fun r => ?_
  split
  · split <;> trivial
  · trivial

theorem uses_deleteSubscriber (c : Credentials) : (deleteSubscriber c).Uses Call.Cancels := by
  refine Uses.within (Uses.bind (uses_ask trivial) fun l => ?_) _
  cases l with
  | wrongPassword | notStored => trivial
  | found s =>
    have hstore : (persist (ask (.canceledAt c.user c.now))).Uses Call.Cancels :=
      uses_persist (uses_ask trivial)
    dsimp only
    split
    · exact Uses.bind ((uses_cancelRemote _).mono fun _ => Call.Stops.cancels) fun _ => hstore
    · exact hstore

theorem uses_addPaymentMethod (c : Credentials) (p : Provider) (platform : Platform) :
    (addPaymentMethod c p platform).Uses Call.Attaches := by
  refine Uses.within (Uses.bind (uses_getSubscriber c trivial) fun r => ?_) _
  refine Uses.bind ?_ fun s => ?_
  · unfold attach
    split
    · split <;> trivial
    · exact Uses.bind (uses_ask trivial) fun _ => uses_persist (uses_ask trivial)
  · split
    · split
      · exact uses_ask trivial
      · trivial
    · trivial

theorem uses_changeLevel (c : Credentials) (p : Provider) (choice : LevelChoice) (id : String) :
    (changeLevel c p choice id).Uses Call.Moves := by
  refine Uses.bind (uses_ask trivial) fun s => ?_
  refine Uses.bind (uses_ask trivial) fun current => ?_
  refine Uses.bind (uses_ofExcept _) fun wanted => ?_
  split
  · trivial
  · refine Uses.bind (uses_ask trivial) fun allowed => ?_
    split
    · exact Uses.bind (uses_ask trivial) fun _ => uses_persist (uses_ask trivial)
    · trivial

theorem uses_orRequiresAction {P : Call → Prop} {α : Type} {p : Program α} (h : p.Uses P) :
    (orRequiresAction p).Uses P := by
  refine h.andThen fun r => ?_
  split
  · split <;> trivial
  · trivial

theorem uses_subscribe (c : Credentials) (p : Provider) (choice : LevelChoice) (s : Subscriber) :
    (subscribe c p choice s).Uses Call.Opens := by
  have opening : ∀ customer last, (orRequiresAction (ask (.createSubscription p customer
      choice.templateId choice.level last)) >>= fun id =>
        persist (ask (.subscriptionCreated c.user id c.now choice.level))).Uses Call.Opens :=
    fun customer last => Uses.bind (uses_orRequiresAction (uses_ask trivial)) fun id =>
      uses_persist (uses_ask trivial)
  unfold subscribe
  split
  · trivial
  split
  · -- the key is read off the record, and no call is made for it
    dsimp only
    split
    · exact Uses.bind (uses_ofExcept _) fun last => opening _ last
    · exact opening _ 0
  · trivial

theorem uses_updateLevel (c : Credentials) (s : Subscriber) (p : Provider) (choice : LevelChoice) :
    (updateLevel c s p choice).Uses fun call => call.Moves ∨ call.Opens := by
  unfold updateLevel operation
  refine Uses.within ?_ _
  split
  · exact (uses_changeLevel c p choice _).mono fun _ => .inl
  · exact (uses_subscribe c p choice s).mono fun _ => .inr

theorem uses_createReceipt (c : Credentials) (bytes : Bytes) :
    (createReceipt c bytes).Uses Call.Redeems := by
  have classified : ∀ {α : Type} {call : Call} {f : Except Fault call.Answer → Program α},
      call.Redeems → (∀ r, (f r).Uses Call.Redeems) →
        ((ask call).andThen f).Uses Call.Redeems := fun h hf =>
    (uses_ask h).andThen hf
  refine Uses.within (Uses.bind (uses_getSubscriber c trivial) fun s => ?_) _
  split
  · trivial
  refine Uses.bind (classified trivial fun r => by split <;> trivial) fun request => ?_
  split
  · trivial
  refine Uses.bind (uses_ask trivial) fun _ => ?_
  refine Uses.bind (uses_ask trivial) fun item => ?_
  refine Uses.bind (uses_ofExcept _) fun print => ?_
  refine Uses.bind (uses_ask trivial) fun noted => ?_
  split
  · trivial
  refine Uses.bind (uses_ask trivial) fun expires => ?_
  refine Uses.bind (uses_ofExcept _) fun seconds => ?_
  refine Uses.bind (classified trivial fun r => by split <;> trivial) fun credential => ?_
  refine Uses.bind (uses_ofExcept _) fun event => ?_
  trivial

end Manager

namespace Request

/-- The calls that a request may make. -/
def Makes : Request → Call → Prop
  | .updateSubscriber _ | .getSubscriber _ => Call.Registers
  | .deleteSubscriber _ => Call.Cancels
  | .addPaymentMethod .. => Call.Attaches
  | .updateLevel .. => fun call => call.Moves ∨ call.Opens
  | .readAndUpdateLevel .. => fun call => call.Registers ∨ call.Moves ∨ call.Opens
  | .createReceipt .. => Call.Redeems

open Manager in
/-- A request makes no other calls, whatever they answer. -/
theorem uses_program (r : Request) : r.program.Uses r.Makes := by
  cases r with
  | updateSubscriber c => exact uses_updateSubscriber c
  | getSubscriber c => exact uses_getSubscriber (P := Call.Registers) c trivial
  | deleteSubscriber c => exact uses_deleteSubscriber c
  | addPaymentMethod c p platform => exact uses_addPaymentMethod c p platform
  | updateLevel c s p choice => exact uses_updateLevel c s p choice
  | readAndUpdateLevel c p choice =>
    refine Program.Uses.bind (uses_getSubscriber c (.inl trivial)) fun s => ?_
    exact (uses_updateLevel c s p choice).mono fun _ => .inr
  | createReceipt c bytes => exact uses_createReceipt c bytes

end Request

end Patronage
