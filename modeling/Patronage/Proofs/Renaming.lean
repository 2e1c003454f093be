import Patronage.Proofs.Likeness.Session
/-!
# Other identities show nothing else

Of an identity only its first four bytes are ever shown, as its tag.  So if the same is done for
subscribers under other identities that start the same, and with other authentication tags, then
nobody can tell from the outside: the events written, the log fields bound and the faults are the
same.  Main statement:

* `Session.exposure_run_renamed` — what a session shows is the same for renamed subscribers.
-/

namespace Patronage

theorem Bytes.take_hexChars (bs : Bytes) (n : Nat) :
    (hexChars bs).take (2 * n) = hexChars (bs.take n) := by
  induction bs generalizing n with
  | nil => simp [hexChars]
  | cons b bs ih =>
    cases n with
    | zero => rfl
    | succ n =>
      show octetHex b ++ (hexChars bs).take (2 * n) = _
      rw [ih]
      rfl

/-- A tag shows the first four bytes. -/
theorem Subscriber.tag_eq (user : Bytes) : tag user = String.ofList (Bytes.hexChars (user.take 4)) :=
  congrArg String.ofList (Bytes.take_hexChars user 4)

/-- Other identities and authentication tags for all subscribers; identities start the same. -/
structure Renaming where
  user : Bytes → Bytes
  hmac : Bytes → Bytes
  user_injective : Function.Injective user
  hmac_injective : Function.Injective hmac
  take_user : ∀ u, (user u).take 4 = u.take 4

/-- Everything but identities and authentication tags is the same. -/
def Renaming.likeness (ρ : Renaming) : Likeness where
  user u u' := ρ.user u = u'
  hmac t t' := ρ.hmac t = t'
  exact := True
  user_iff := by
    rintro u _ v _ rfl rfl
    exact ρ.user_injective.eq_iff.symm
  hmac_iff := by
    rintro t _ x _ rfl rfl
    exact ρ.hmac_injective.eq_iff.symm
  tag_eq := by
    rintro u _ rfl
    rw [Subscriber.tag_eq, Subscriber.tag_eq, ρ.take_user]

/-! ### What shows -/

/-- How a program has ended that has. -/
def Program.ending? {α : Type} : Program α → Option (Except Fault Unit)
  | .done r => some (r.map fun _ => ())
  | _ => none

/-- Whether a collaborator did as it was asked to. -/
def Reply.ending : Reply → Except Fault Unit
  | .used _ answer => answer.map fun _ => ()
  | .required answer => answer

/-- What shows of a session to those who may not see records and answers. -/
structure Exposure where
  /-- The events written, with the fields that were bound. -/
  events : List Log.Entry
  /-- The log fields bound at the moment. -/
  context : Log.Context Log.Field
  /-- How requests ended, and the log fields bound around them. -/
  requests : List (Option (Except Fault Unit) × Log.Context Log.Field)
  /-- How collaborators answered that were used without the manager. -/
  uses : List (Except Fault Unit)

/-- What shows of a session. -/
def Session.exposure (s : Session) : Exposure where
  events := s.system.course.world.events
  context := s.system.course.world.context
  requests := s.system.tasks.map fun t => (t.rest.ending?, t.context)
  uses := s.replies.map Reply.ending

variable {L : Likeness}

/-- Results that are alike are both answers or both the same fault. -/
theorem Twin.map_unit {ε α α' : Type} {R : α → α' → Prop} {r : Except ε α} {r' : Except ε α'}
    (h : Twin R r r') : (r.map fun _ => ()) = r'.map fun _ => () := by
  cases h with
  | ok _ => rfl
  | error _ => rfl

theorem Program.Like.ending? {α α' : Type} {A : α → α' → Prop} {p : Program α} {p' : Program α'}
    (h : p.Like L A p') : p.ending? = p'.ending? := by
  cases h with
  | done hr => exact congrArg some hr.map_unit
  | call _ _ => rfl
  | enter _ _ => rfl
  | leave _ _ => rfl
  | log _ _ => rfl

theorem Reply.Like.ending {r r' : Reply} (h : r.Like L r') : r.ending = r'.ending := by
  cases h with
  | used _ ha => exact ha.map_unit
  | required a => rfl

/-- What is read off lists with alike elements is the same. -/
theorem map_eq_map_of_forall₂ {α β γ : Type} {R : α → β → Prop} {f : α → γ} {g : β → γ}
    {l : List α} {l' : List β} (h : List.Forall₂ R l l') (hfg : ∀ {a b}, R a b → f a = g b) :
    l.map f = l'.map g := by
  have hread : List.Forall₂ (fun a b => f a = g b) l l' := h.imp fun _ _ hab => hfg hab
  rw [← List.forall₂_eq_eq_eq]
  exact List.forall₂_map_left_iff.2 (List.forall₂_map_right_iff.2 hread)

/-- Sessions that are alike show the same, where moments are the same. -/
theorem Session.Like.exposure {s s' : Session} (h : s.Like L s') (hx : L.exact) :
    s.exposure = s'.exposure := by
  have hrequests : s.system.tasks.map (fun t => (t.rest.ending?, t.context)) =
      s'.system.tasks.map fun t => (t.rest.ending?, t.context) :=
    map_eq_map_of_forall₂ h.system.tasks fun {t t'} ht => by
      cases ht with
      | mk _ hp ctx => rw [hp.ending?]
  have huses : s.replies.map Reply.ending = s'.replies.map Reply.ending :=
    map_eq_map_of_forall₂ h.replies Reply.Like.ending
  rw [Session.exposure, h.system.world.events hx, h.system.world.context, hrequests, huses,
    Session.exposure]

/-- What a session shows is the same for renamed subscribers. -/
theorem Session.exposure_run_renamed (ρ : Renaming) {w : World} (hw : w.Fresh)
    {acts acts' : List Act} (h : List.Forall₂ (Act.Like ρ.likeness) acts acts') :
    ((start w).run acts').exposure = ((start w).run acts).exposure := by
  have hstart : (start w).Like ρ.likeness (start w) := hw.like_start (Moment.like_refl w.clock)
  exact ((like_run hstart h (.inl trivial)).exposure trivial).symm

namespace Sample

/-- Identities that are shown in full stay, all others end in another byte. -/
def longer : Renaming where
  user u := if u.length < 4 then u else u ++ [0]
  hmac t := 0 :: t
  user_injective u v h := by
    dsimp only at h
    split at h <;> split at h
    · exact h
    · rename_i hu _
      rw [h, List.length_append, List.length_singleton] at hu
      omega
    · rename_i hv
      rw [← h, List.length_append, List.length_singleton] at hv
      omega
    · exact List.append_cancel_right h
  hmac_injective _ _ h := List.tail_eq_of_cons_eq h
  take_user u := by
    split
    · rfl
    · exact List.take_append_of_le_length (by omega)

/-- A subscriber the identity of which is not shown in full. -/
def covered : Credentials := ⟨[1, 2, 3, 4, 5], [6], .epoch⟩

/-- The subscriber under another identity. -/
def renamed : Credentials := ⟨longer.user covered.user, longer.hmac covered.hmac, .epoch⟩

end Sample

open Sample in
/-- A subscriber under another identity pays and gets a credential, and nothing else shows. -/
theorem Session.exposure_run_renamed_payAt :
    World.shipped.Fresh ∧ renamed.user ≠ covered.user ∧
    List.Forall₂ (Act.Like longer.likeness) ((payAt covered .epoch).map .move)
      ((payAt renamed .epoch).map .move) ∧
    ((start .shipped).run ((payAt renamed .epoch).map .move)).exposure =
      ((start .shipped).run ((payAt covered .epoch).map .move)).exposure ∧
    ((start .shipped).run ((payAt covered .epoch).map .move)).exposure.events.map (·.name) =
      ["subscriber_created", "emulated_customer_created", "processor_customer_set",
        "emulated_subscription_created", "subscription_level_changed",
        "receipt_credential_issued"] := by
  have hlike : List.Forall₂ (Act.Like longer.likeness) ((payAt covered .epoch).map .move)
      ((payAt renamed .epoch).map .move) :=
    Act.like_moves (like_payAt ⟨rfl, rfl, Moment.like_refl .epoch⟩ (Moment.like_refl .epoch))
  exact ⟨World.fresh_shipped, by decide, hlike, exposure_run_renamed longer World.fresh_shipped hlike,
    by decide +kernel⟩

end Patronage
