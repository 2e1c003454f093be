import Patronage.Proofs.Linkage
/-!
# What the tag authorizes

A request names a subscriber and carries a tag.  Operations that look the subscriber up refuse a tag
other than the stored one before they have done anything.  A change of level looks nothing up: it
works on a record that its caller has read, and its own tag is never compared with anything.  Main
statements:

* `Program.Denied.bind`, `Program.Denied.within` — what starts with a refusal is refused;
* `Request.denied_of_fresh` — a wrong tag is refused by every request that reads its own record;
* `Request.denied_iff_of_tag_ne` — any other request is refused with a wrong tag exactly if it is
  refused with the right one.
-/

namespace Patronage

open Manager

namespace World

variable {α β : Type} (rules : Rules) (w : World)

theorem perform_bind (p : Program α) (f : α → Program β) :
    w.perform rules (p >>= f) =
      match w.perform rules p with
      | (.ok a, w') => w'.perform rules (f a)
      | (.error e, w') => (.error e, w') := by
  induction p generalizing w with
  | done r => cases r <;> rfl
  | call c next ih => exact ih _ _
  | enter fields next ih => exact ih _ _
  | leave saved next ih => exact ih _
  | log e next ih => exact ih _

theorem perform_within (fields : Log.Fields Log.Field) (p : Program α) :
    w.perform rules (p.within fields) =
      let o := World.perform rules p { w with context := w.context.bind fields }
      (o.1, { o.2 with context := o.2.context.restore (w.context.save fields) }) :=
  congrFun (Program.run_within (host rules) fields p) w

end World

/-- An answer that refuses credentials. -/
def Refused {α : Type} (r : Except Fault α) : Prop :=
  ∃ refusal, r = .error (.refused refusal) ∧
    (refusal.kind = .forbidden ∨ refusal.kind = .notFound)

namespace Program

variable {α β : Type}

/-- On a world a program is refused and leaves everything but the log as it is. -/
structure Denied (rules : Rules) (p : Program α) (w : World) : Prop where
  refused : Refused (w.perform rules p).1
  alike : w.Alike (w.perform rules p).2

variable {rules : Rules} {w : World}

/-- What follows a refusal does not happen. -/
theorem Denied.bind {p : Program α} (h : p.Denied rules w) (f : α → Program β) :
    (p >>= f).Denied rules w := by
  rcases h with ⟨⟨refusal, he, hkind⟩, halike⟩
  have hperform : w.perform rules (p >>= f) =
      (.error (.refused refusal), (w.perform rules p).2) := by
    have hp : w.perform rules p = (.error (.refused refusal), (w.perform rules p).2) :=
      Prod.ext he rfl
    rw [World.perform_bind, hp]
  constructor
  · exact ⟨refusal, by rw [hperform], hkind⟩
  · rw [hperform]
    exact halike

/-- The log fields around a refusal change nothing about it. -/
theorem Denied.within {p : Program α} (h : ∀ ctx, p.Denied rules { w with context := ctx })
    (fields : Log.Fields Log.Field) : (p.within fields).Denied rules w := by
  rcases h (w.context.bind fields) with ⟨hrefused, halike⟩
  constructor
  · rw [World.perform_within]
    exact hrefused
  · rw [World.perform_within]
    exact ⟨halike.store, halike.ledger, halike.registry, halike.catalog, halike.tokens⟩

theorem denied_refusal {kind : RefusalKind} {detail : Option String}
    (h : kind = .forbidden ∨ kind = .notFound) :
    (throw (.refused ⟨kind, detail, none⟩) : Program α).Denied rules w :=
  ⟨⟨_, rfl, h⟩, .refl w⟩

/-- A tag other than the stored one is found to be wrong. -/
theorem denied_lookUp {user hmac : Bytes} {f : Lookup → Program β}
    (h : w.store.lookup user hmac = .wrongPassword) (hf : (f .wrongPassword).Denied rules w) :
    (ask (.lookUp user hmac) >>= f).Denied rules w := by
  have hperform : w.perform rules (ask (.lookUp user hmac) >>= f) =
      w.perform rules (f (w.store.lookup user hmac)) := rfl
  rw [h] at hperform
  constructor
  · rw [hperform]
    exact hf.refused
  · rw [hperform]
    exact hf.alike

end Program

namespace Manager

open Program

variable {rules : Rules} {w : World} {c : Credentials}

theorem denied_mismatch {α : Type} : (mismatch : Program α).Denied rules w :=
  denied_refusal (.inl rfl)

theorem denied_missing {α : Type} : (missing : Program α).Denied rules w :=
  denied_refusal (.inr rfl)

theorem denied_updateSubscriber (h : w.store.lookup c.user c.hmac = .wrongPassword) :
    (updateSubscriber c).Denied rules w :=
  Denied.within (fun _ => denied_lookUp h denied_mismatch) _

theorem denied_getSubscriber (h : w.store.lookup c.user c.hmac = .wrongPassword) :
    (getSubscriber c).Denied rules w :=
  Denied.within (fun _ => denied_lookUp h denied_mismatch) _

theorem denied_deleteSubscriber (h : w.store.lookup c.user c.hmac = .wrongPassword) :
    (deleteSubscriber c).Denied rules w :=
  Denied.within (fun _ => denied_lookUp h denied_missing) _

/-- What starts with reading the subscriber is refused with it. -/
theorem denied_operation {α : Type} {f : Subscriber → Program α} (name : String)
    (h : w.store.lookup c.user c.hmac = .wrongPassword) :
    (operation name c (getSubscriber c >>= f)).Denied rules w :=
  Denied.within (fun ctx =>
    (denied_getSubscriber (w := { w with context := ctx }) h).bind f) _

end Manager

/-! ### Requests -/

namespace Request

/-- What a request is authorized with. -/
def credentials : Request → Credentials
  | .updateSubscriber c | .getSubscriber c | .deleteSubscriber c | .addPaymentMethod c ..
  | .updateLevel c .. | .readAndUpdateLevel c .. | .createReceipt c _ => c

/-- The request with another tag. -/
def withTag (hmac : Bytes) : Request → Request
  | .updateSubscriber c => .updateSubscriber { c with hmac }
  | .getSubscriber c => .getSubscriber { c with hmac }
  | .deleteSubscriber c => .deleteSubscriber { c with hmac }
  | .addPaymentMethod c p platform => .addPaymentMethod { c with hmac } p platform
  | .updateLevel c record p choice => .updateLevel { c with hmac } record p choice
  | .readAndUpdateLevel c p choice => .readAndUpdateLevel { c with hmac } p choice
  | .createReceipt c bytes => .createReceipt { c with hmac } bytes

variable {rules : Rules} {w : World} {r : Request}

/-- A wrong tag is refused by every request that reads its own record. -/
theorem denied_of_fresh (hr : r.Fresh)
    (h : w.store.lookup r.credentials.user r.credentials.hmac = .wrongPassword) :
    r.program.Denied rules w := by
  cases r with
  | updateSubscriber c => exact denied_updateSubscriber h
  | getSubscriber c => exact denied_getSubscriber h
  | deleteSubscriber c => exact denied_deleteSubscriber h
  | addPaymentMethod c p platform => exact denied_operation _ h
  | updateLevel => exact hr.elim
  | readAndUpdateLevel c p choice => exact (denied_getSubscriber h).bind _
  | createReceipt c bytes => exact denied_operation _ h

/-- Where the stored tag is another one, a request is refused, and nothing is changed, exactly if it
reads its own record or is refused with the stored tag too: a change of level of a record that was
read elsewhere never looks at the tag. -/
theorem denied_iff_of_tag_ne {s : Subscriber} (hs : w.store.find? r.credentials.user = some s)
    (htag : s.password ≠ r.credentials.hmac) :
    r.program.Denied rules w ↔ r.Fresh ∨ (r.withTag s.password).program.Denied rules w := by
  have hlookup : w.store.lookup r.credentials.user r.credentials.hmac = .wrongPassword := by
    simp [Store.lookup, hs, htag]
  cases r with
  | updateLevel c record p choice =>
    constructor
    · intro h
      exact .inr h
    · rintro (h | h)
      · exact h.elim
      · exact h
  | _ =>
    constructor
    · intro _
      exact .inl trivial
    · intro _
      exact denied_of_fresh trivial hlookup

end Request

namespace Sample

/-- The credentials of the subscriber with a tag that somebody made up. -/
def forged : Credentials := { credentials with hmac := [0xcc] }

/-- The subscriber becomes known, gets a customer and is read. -/
def readEarlier : List (Move (Rules × Luck)) :=
  oneByOne asShipped
    [.updateSubscriber credentials, .addPaymentMethod credentials .stripe .ios,
      .getSubscriber credentials]

end Sample

open Sample in
/-- The subscriber is not deleted by whoever makes up a tag. -/
theorem Request.denied_iff_of_tag_ne_of_forged :
    let w := ((System.start .shipped).play .inMemory readEarlier).course.world
    let r := Request.deleteSubscriber forged
    (w.store.find? r.credentials.user = some attached ∧
      attached.password ≠ r.credentials.hmac) ∧
    (r.program.Denied asShipped.1 w ↔
      r.Fresh ∨ (r.withTag attached.password).program.Denied asShipped.1 w) := by
  intro w r
  have hs : w.store.find? r.credentials.user = some attached := by decide +kernel
  have htag : attached.password ≠ r.credentials.hmac := by decide
  exact ⟨⟨hs, htag⟩, denied_iff_of_tag_ne hs htag⟩

open Sample in
/-- With a record that the subscriber read earlier, whoever makes up a tag starts a subscription. -/
theorem Request.not_denied_of_forged :
    let s := (System.start .shipped).play .inMemory readEarlier
    let r := Request.updateLevel forged attached .stripe (choice 500 "first")
    let o := s.course.world.perform asShipped.1 r.program
    s.HasRead r ∧ s.course.world.store.find? r.credentials.user = some attached ∧
      attached.password ≠ r.credentials.hmac ∧ ¬r.program.Denied asShipped.1 s.course.world ∧
      o.1.isOk ∧ (o.2.store.find? r.credentials.user).any (·.subscriptionLevel = some 500) := by
  intro s r o
  have hread : s.HasRead r := by decide +kernel
  have hs : s.course.world.store.find? r.credentials.user = some attached := by decide +kernel
  have htag : attached.password ≠ r.credentials.hmac := by decide
  have hok : o.1.isOk := by decide +kernel
  have hlevel : (o.2.store.find? r.credentials.user).any (·.subscriptionLevel = some 500) := by
    decide +kernel
  refine ⟨hread, hs, htag, fun hdenied => ?_, hok, hlevel⟩
  obtain ⟨refusal, hrefused, -⟩ := hdenied.refused
  have hanswer : o.1 = .error (.refused refusal) := hrefused
  rw [hanswer] at hok
  cases hok

end Patronage
