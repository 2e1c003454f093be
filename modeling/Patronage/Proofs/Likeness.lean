import Mathlib.Data.List.Forall2
import Patronage.Proofs.Shift
/-!
# Two worlds that are alike

Two runs may differ in the identities and the authentication tags of subscribers, as long as these
go together one to one and identities show the same, and in the clocks that their moments are read
off, as long as these denote the same instants.  A `Likeness` says which of this is meant; every
record and every table is like another if they differ in nothing else, and every operation of a
collaborator keeps what it works on alike, answers alike and fails alike.  Main statements:

* `Moment.Like.add` — the same span later, two moments are alike while the calendar lasts;
* `Assoc.Like.get?`, `Assoc.Like.insert` — tables that are alike are read and written alike;
* `Store.like_update` — updates keep stores alike.
-/

namespace Patronage

open Calendar

/-- How two runs are to be alike: which identities and which authentication tags go together, and
whether moments are the same or only denote the same instants. -/
structure Likeness where
  user : Bytes → Bytes → Prop
  hmac : Bytes → Bytes → Prop
  /-- Whether moments are the same. -/
  exact : Prop
  user_iff : ∀ {u u' v v'}, user u u' → user v v' → (u = v ↔ u' = v')
  hmac_iff : ∀ {t t' x x'}, hmac t t' → hmac x x' → (t = x ↔ t' = x')
  tag_eq : ∀ {u u'}, user u u' → Subscriber.tag u = Subscriber.tag u'

/-- Both results are answers that are alike, or both are the same error. -/
inductive Twin {ε α α' : Type} (R : α → α' → Prop) : Except ε α → Except ε α' → Prop
  | ok {a : α} {a' : α'} (h : R a a') : Twin R (.ok a) (.ok a')
  | error (e : ε) : Twin R (.error e) (.error e)

namespace Twin

variable {ε ε' α α' β β' : Type} {R : α → α' → Prop} {S : β → β' → Prop}

theorem of_eq {r r' : Except ε α} (h : r = r') : Twin (· = ·) r r' := by
  subst h
  cases r with
  | ok a => exact .ok rfl
  | error e => exact .error e

theorem eq {r r' : Except ε α} (h : Twin (· = ·) r r') : r = r' := by
  cases h with
  | ok h => exact congrArg Except.ok h
  | error e => rfl

theorem error_or_ok {r : Except ε α} {r' : Except ε α'} (h : Twin R r r') :
    (∃ e, r = .error e ∧ r' = .error e) ∨ ∃ a a', r = .ok a ∧ r' = .ok a' ∧ R a a' := by
  cases h with
  | ok h => exact .inr ⟨_, _, rfl, rfl, h⟩
  | error e => exact .inl ⟨e, rfl, rfl⟩

theorem bind {r : Except ε α} {r' : Except ε α'} {f : α → Except ε β} {f' : α' → Except ε β'}
    (h : Twin R r r') (hf : ∀ {a a'}, r = .ok a → r' = .ok a' → R a a' → Twin S (f a) (f' a')) :
    Twin S (r >>= f) (r' >>= f') := by
  cases h with
  | ok h => exact hf rfl rfl h
  | error e => exact .error e

theorem mapError {r : Except ε α} {r' : Except ε α'} (h : Twin R r r') (f : ε → ε') :
    Twin R (r.mapError f) (r'.mapError f) := by
  cases h with
  | ok h => exact .ok h
  | error e => exact .error (f e)

end Twin

theorem OptionRel.none_or_some {α β : Type} {r : α → β → Prop} {o : Option α} {o' : Option β}
    (h : Option.Rel r o o') :
    (o = none ∧ o' = none) ∨ ∃ a b, o = some a ∧ o' = some b ∧ r a b := by
  cases h with
  | none => exact .inl ⟨rfl, rfl⟩
  | some h => exact .inr ⟨_, _, rfl, rfl, h⟩

/-! ### Moments -/

/-- Two moments that denote the same instant, or read the same on clocks of no known offset, and are
the same if that is asked for. -/
structure Moment.Like (L : Likeness) (m m' : Moment) : Prop where
  utcMicros : m.utcMicros = m'.utcMicros
  aware : m.offset.isSome = m'.offset.isSome
  eq : L.exact → m = m'

/-- A moment some time later is still on the calendar, if that time is short enough for a span. -/
def Moment.Reaches (m : Moment) (micros : Int) : Prop :=
  spanFits micros → firstWall ≤ m.wall + micros ∧ m.wall + micros ≤ lastWall

instance (m : Moment) (micros : Int) : Decidable (m.Reaches micros) :=
  inferInstanceAs (Decidable (spanFits micros → _))

namespace Moment

variable {L : Likeness} {m m' n n' : Moment} {micros : Int}

@[simp] theorem like_refl (m : Moment) : m.Like L m := ⟨rfl, rfl, fun _ => rfl⟩

theorem since_eq (later earlier : Moment) : later.since earlier =
    if later.offset.isSome = earlier.offset.isSome then .ok (later.utcMicros - earlier.utcMicros)
    else .error .mixedOffsets := by
  unfold since
  cases later.offset <;> cases earlier.offset <;> rfl

theorem add_of_reaches (h : m.Reaches micros) :
    (spanFits micros = false ∧ m.add micros = .error .outOfRange) ∨
      ∃ k, m.add micros = .ok k ∧ k.utcMicros = m.utcMicros + micros ∧ k.offset = m.offset := by
  unfold add
  split
  · rename_i hfits
    refine .inr ⟨⟨m.wall + micros, m.offset, h hfits⟩, dif_pos (h hfits), ?_, rfl⟩
    simp only [Moment.utcMicros]
    omega
  · rename_i hfits
    exact .inl ⟨by simpa using hfits, rfl⟩

namespace Like

/-- The same span later, two moments are alike while the calendar lasts. -/
theorem add (h : m.Like L m') (hc : L.exact ∨ (m.Reaches micros ∧ m'.Reaches micros)) :
    Twin (Moment.Like L) (m.add micros) (m'.add micros) := by
  by_cases hx : L.exact
  · obtain rfl := h.eq hx
    cases m.add micros with
    | ok k => exact .ok (like_refl k)
    | error e => exact .error e
  · obtain ⟨hm, hm'⟩ := hc.resolve_left hx
    obtain ⟨hfits, he⟩ | ⟨k, hk, hku, hko⟩ := add_of_reaches hm
    · rw [he, Moment.add, hfits]
      exact .error _
    · obtain ⟨hfits', -⟩ | ⟨k', hk', hku', hko'⟩ := add_of_reaches hm'
      · simp [Moment.add, hfits'] at hk
      · rw [hk, hk']
        exact .ok ⟨by rw [hku, hku', h.utcMicros], by rw [hko, hko', h.aware], fun h => absurd h hx⟩

theorem since (h : m.Like L m') (hn : n.Like L n') : m.since n = m'.since n' := by
  rw [since_eq, since_eq, h.utcMicros, h.aware, hn.utcMicros, hn.aware]

theorem hasUtc (h : m.Like L m') : m.hasUtc = m'.hasUtc := by
  have hu := h.utcMicros
  have ha := h.aware
  unfold Moment.hasUtc
  rw [ha]
  cases ho' : m'.offset with
  | some o => rfl
  | none =>
    -- without offsets both clocks read the same
    have ho : m.offset = none := by simpa [ho'] using ha
    simp only [Moment.utcMicros, ho, ho', Option.map_none, Option.getD_none, Int.sub_zero] at hu
    rw [hu]

theorem epochSeconds (h : m.Like L m') : m.epochSeconds = m'.epochSeconds := by
  rw [Moment.epochSeconds, h.hasUtc, h.utcMicros, Moment.epochSeconds]

theorem truncateToDay (h : m.Like L m') : m.truncateToDay = m'.truncateToDay := by
  rw [Moment.truncateToDay, toUtc, h.hasUtc, h.utcMicros, Moment.truncateToDay, toUtc]

end Like

end Moment

/-! ### Tables -/

namespace Assoc

variable {κ α β : Type}

/-- Two tables with entries in the same order, the keys and the values of which are alike. -/
def Like (K : κ → κ → Prop) (V : α → α → Prop) (m m' : Assoc κ α) : Prop :=
  List.Forall₂ (fun e e' => K e.1 e'.1 ∧ V e.2 e'.2) m.entries m'.entries

variable {K : κ → κ → Prop} {V : α → α → Prop} {W : β → β → Prop} {m m' : Assoc κ α}

theorem Like.values (h : m.Like K V m') : List.Forall₂ V m.values m'.values :=
  List.forall₂_map_left_iff.2 (List.forall₂_map_right_iff.2 (h.imp fun _ _ he => he.2))

theorem Like.mapValues {f f' : α → β} (h : m.Like K V m')
    (hf : ∀ {a a'}, V a a' → W (f a) (f' a')) : (m.mapValues f).Like K W (m'.mapValues f') :=
  List.forall₂_map_left_iff.2 (List.forall₂_map_right_iff.2 (h.imp fun _ _ he => ⟨he.1, hf he.2⟩))

variable [DecidableEq κ] {k k' : κ}

/-- What is found under keys that go together one to one is alike. -/
theorem Like.get? (h : m.Like K V m') (hk : ∀ {x x'}, K x x' → (x = k ↔ x' = k')) :
    Option.Rel V (m.get? k) (m'.get? k') := by
  obtain ⟨es⟩ := m
  obtain ⟨es'⟩ := m'
  simp only [Like] at h
  simp only [Assoc.get?]
  induction h with
  | nil => exact .none
  | cons he _ ih =>
    simp only [find, hk he.1]
    split
    · exact .some he.2
    · exact ih

/-- Tables that are alike stay so when alike values are written under keys that go together. -/
theorem Like.insert {v v' : α} (h : m.Like K V m') (hkk : K k k')
    (hk : ∀ {x x'}, K x x' → (x = k ↔ x' = k')) (hv : V v v') :
    (m.insert k v).Like K V (m'.insert k' v') := by
  obtain ⟨es⟩ := m
  obtain ⟨es'⟩ := m'
  simp only [Like] at h
  simp only [Assoc.insert, Like]
  induction h with
  | nil => exact .cons ⟨hkk, hv⟩ .nil
  | cons he hes ih =>
    simp only [write, hk he.1]
    split
    · exact .cons ⟨he.1, hv⟩ hes
    · exact .cons he ih

end Assoc

/-- Two outcomes that are alike, the events included if moments are the same. -/
structure Outcome.Like {σ α : Type} (L : Likeness) (S : σ → σ → Prop) (R : α → α → Prop)
    (o o' : Outcome σ α) : Prop where
  state : S o.state o'.state
  answer : Twin R o.answer o'.answer
  events : L.exact → o.events = o'.events

namespace Outcome.Like

variable {σ α : Type} {L : Likeness} {S : σ → σ → Prop} {R : α → α → Prop} {s s' : σ}

theorem ok {a a' : α} {es es' : List Log.Entry} (hs : S s s') (ha : R a a')
    (he : L.exact → es = es') : Outcome.Like L S R (.ok s a es) (.ok s' a' es') :=
  ⟨hs, .ok ha, he⟩

theorem fail (hs : S s s') (f : Fault) : Outcome.Like L S R (.fail s f) (.fail s' f) :=
  ⟨hs, .error f, fun _ => rfl⟩

end Outcome.Like

/-! ### Subscribers -/

variable {L : Likeness}

/-- Identities that go together show the same. -/
theorem Likeness.subscriber_eq {user user' : Bytes} (hu : L.user user user') :
    Log.Audit.subscriber user = Log.Audit.subscriber user' := by
  rw [Log.Audit.subscriber, L.tag_eq hu, Log.Audit.subscriber]

/-- Two records of subscribers that go together. -/
structure Subscriber.Like (L : Likeness) (s s' : Subscriber) : Prop where
  user : L.user s.user s'.user
  password : L.hmac s.password s'.password
  createdAt : s.createdAt.Like L s'.createdAt
  accessedAt : s.accessedAt.Like L s'.accessedAt
  canceledAt : Option.Rel (Moment.Like L) s.canceledAt s'.canceledAt
  customer : s.customer = s'.customer
  customerUpdatedAt : Option.Rel (Moment.Like L) s.customerUpdatedAt s'.customerUpdatedAt
  subscriptionId : s.subscriptionId = s'.subscriptionId
  subscriptionLevel : s.subscriptionLevel = s'.subscriptionLevel
  subscriptionCreatedAt :
    Option.Rel (Moment.Like L) s.subscriptionCreatedAt s'.subscriptionCreatedAt
  levelChangedAt : Option.Rel (Moment.Like L) s.levelChangedAt s'.levelChangedAt

namespace Subscriber.Like

variable {s s' : Subscriber} {user user' hmac hmac' : Bytes} {now now' : Moment}

theorem new (hu : L.user user user') (ht : L.hmac hmac hmac') (hm : now.Like L now') :
    (Subscriber.new user hmac now).Like L (Subscriber.new user' hmac' now') :=
  ⟨hu, ht, hm, hm, .none, rfl, .none, rfl, rfl, .none, .none⟩

theorem accessed (h : s.Like L s') (hm : now.Like L now') :
    (s.accessed now).Like L (s'.accessed now') :=
  { h with accessedAt := hm }

theorem canceled (h : s.Like L s') (hm : now.Like L now') :
    (s.canceled now).Like L (s'.canceled now') :=
  { h with accessedAt := hm, canceledAt := .some hm, subscriptionId := rfl,
           subscriptionLevel := rfl }

theorem withCustomer (h : s.Like L s') (c : Customer) (hm : now.Like L now') :
    (s.withCustomer c now).Like L (s'.withCustomer c now') := by
  unfold Subscriber.withCustomer
  rw [← h.customer]
  cases s.customer with
  | some held => exact h
  | none => exact { h with customer := rfl, customerUpdatedAt := .some hm, accessedAt := hm }

theorem subscribed (h : s.Like L s') (id : String) (level : Int) (hm : now.Like L now') :
    (s.subscribed id level now).Like L (s'.subscribed id level now') :=
  { h with subscriptionId := rfl, subscriptionLevel := rfl, subscriptionCreatedAt := .some hm,
           levelChangedAt := .some hm, accessedAt := hm }

theorem movedTo (h : s.Like L s') (id : String) (level : Int) (hm : now.Like L now') :
    (s.movedTo id level now).Like L (s'.movedTo id level now') :=
  { h with subscriptionId := rfl, subscriptionLevel := rfl, levelChangedAt := .some hm,
           accessedAt := hm }

end Subscriber.Like

/-- Two answers of the store to a look-up that are alike. -/
inductive Lookup.Like (L : Likeness) : Lookup → Lookup → Prop
  | found {s s' : Subscriber} (h : s.Like L s') : Like L (.found s) (.found s')
  | notStored : Like L .notStored .notStored
  | wrongPassword : Like L .wrongPassword .wrongPassword

/-- Two stores of subscribers that go together, in the same order. -/
def Store.Like (L : Likeness) (store store' : Store) : Prop :=
  store.subscribers.Like L.user (Subscriber.Like L) store'.subscribers

namespace Store

variable {store store' : Store} {user user' hmac hmac' : Bytes} {now now' : Moment}

theorem Like.find? (h : store.Like L store') (hu : L.user user user') :
    Option.Rel (Subscriber.Like L) (store.find? user) (store'.find? user') :=
  Assoc.Like.get? h fun hx => L.user_iff hx hu

theorem Like.insert {s s' : Subscriber} (h : store.Like L store') (hu : L.user user user')
    (hs : s.Like L s') :
    Store.Like L ⟨store.subscribers.insert user s⟩ ⟨store'.subscribers.insert user' s'⟩ :=
  Assoc.Like.insert h hu (fun hx => L.user_iff hx hu) hs

theorem like_lookup (h : store.Like L store') (hu : L.user user user') (ht : L.hmac hmac hmac') :
    Lookup.Like L (store.lookup user hmac) (store'.lookup user' hmac') := by
  unfold lookup
  obtain ⟨hn, hn'⟩ | ⟨s, s', he, he', hs⟩ := OptionRel.none_or_some (h.find? hu)
  · rw [hn, hn']
    exact .notStored
  · rw [he, he']
    simp only [L.hmac_iff hs.password ht]
    split
    · exact .found hs
    · exact .wrongPassword

theorem like_create (h : store.Like L store') (hu : L.user user user') (ht : L.hmac hmac hmac')
    (hm : now.Like L now') :
    Outcome.Like L (Store.Like L) (Option.Rel (Subscriber.Like L)) (store.create user hmac now)
      (store'.create user' hmac' now') := by
  unfold create
  obtain ⟨hn, hn'⟩ | ⟨s, s', he, he', hs⟩ := OptionRel.none_or_some (h.find? hu)
  · rw [hn, hn']
    have hnew := Subscriber.Like.new hu ht hm
    refine .ok (h.insert hu hnew) (.some hnew) fun hx => ?_
    rw [hm.eq hx, Log.Audit.created, L.subscriber_eq hu, Log.Audit.created]
  · rw [he, he']
    simp only [L.hmac_iff hs.password ht]
    split
    · exact .ok h (.some hs) fun _ => rfl
    · refine .ok h .none fun _ => ?_
      rw [Log.Audit.createConflict, L.subscriber_eq hu, Log.Audit.createConflict]

/-- Updates of subscribers that go together keep stores alike, if they change alike records alike. -/
theorem like_update {α : Type} {R : α → α → Prop} {change change' : Subscriber → Subscriber}
    {report report' : Subscriber → Subscriber → α × Log.Entry} (h : store.Like L store')
    (hu : L.user user user')
    (hchange : ∀ {s s' : Subscriber}, s.Like L s' → (change s).Like L (change' s'))
    (hanswer : ∀ {s s' : Subscriber}, s.Like L s' →
      R (report s (change s)).1 (report' s' (change' s')).1)
    (hevent : ∀ {s s' : Subscriber}, s.Like L s' → L.exact →
      (report s (change s)).2 = (report' s' (change' s')).2) :
    Outcome.Like L (Store.Like L) R (store.update user change report)
      (store'.update user' change' report') := by
  unfold update
  obtain ⟨hn, hn'⟩ | ⟨s, s', he, he', hs⟩ := OptionRel.none_or_some (h.find? hu)
  · rw [hn, hn', L.tag_eq hu]
    exact .fail h _
  · rw [he, he']
    exact .ok (h.insert hu (hchange hs)) (hanswer hs) fun hx => by rw [hevent hs hx]

theorem like_accessedAt (h : store.Like L store') (hu : L.user user user') (hm : now.Like L now') :
    Outcome.Like L (Store.Like L) (· = ·) (store.accessedAt user now)
      (store'.accessedAt user' now') := by
  refine like_update h hu (fun hs => hs.accessed hm) (fun _ => rfl) fun _ hx => ?_
  rw [hm.eq hx, Log.Audit.accessed, L.subscriber_eq hu, Log.Audit.accessed]

theorem like_canceledAt (h : store.Like L store') (hu : L.user user user') (hm : now.Like L now') :
    Outcome.Like L (Store.Like L) (· = ·) (store.canceledAt user now)
      (store'.canceledAt user' now') := by
  refine like_update h hu (fun hs => hs.canceled hm) (fun _ => rfl) fun hs hx => ?_
  rw [hm.eq hx, hs.customer, Log.Audit.canceled, L.subscriber_eq hu, Log.Audit.canceled]

theorem like_setCustomer (h : store.Like L store') (hu : L.user user user') (c : Customer)
    (hm : now.Like L now') :
    Outcome.Like L (Store.Like L) (Subscriber.Like L) (store.setCustomer user c now)
      (store'.setCustomer user' c now') := by
  refine like_update h hu (fun hs => hs.withCustomer c hm) (fun hs => hs.withCustomer c hm)
    fun hs hx => ?_
  dsimp only
  rw [(hs.withCustomer c hm).customer, hs.customer, Log.Audit.customerSet, L.subscriber_eq hu,
    Log.Audit.customerSet]

theorem like_subscriptionCreated (h : store.Like L store') (hu : L.user user user') (id : String)
    (hm : now.Like L now') (level : Int) :
    Outcome.Like L (Store.Like L) (· = ·) (store.subscriptionCreated user id now level)
      (store'.subscriptionCreated user' id now' level) := by
  refine like_update h hu (fun hs => hs.subscribed id level hm) (fun _ => rfl) fun hs hx => ?_
  rw [hs.subscriptionLevel, Log.Audit.levelChanged, L.subscriber_eq hu, Log.Audit.levelChanged]

theorem like_levelChanged (h : store.Like L store') (hu : L.user user user') (hm : now.Like L now')
    (level : Int) (id : String) :
    Outcome.Like L (Store.Like L) (· = ·) (store.levelChanged user now level id)
      (store'.levelChanged user' now' level id) := by
  refine like_update h hu (fun hs => hs.movedTo id level hm) (fun _ => rfl) fun hs hx => ?_
  rw [hs.subscriptionLevel, Log.Audit.levelChanged, L.subscriber_eq hu, Log.Audit.levelChanged]

end Store

/-! ### The ledger -/

/-- Two entries of a ledger made at moments that are alike. -/
structure Issuance.Like (L : Likeness) (x x' : Issuance) : Prop where
  itemId : x.itemId = x'.itemId
  provider : x.provider = x'.provider
  fingerprint : x.fingerprint = x'.fingerprint
  issuedAt : x.issuedAt.Like L x'.issuedAt

/-- Two ledgers with entries that are alike, in the same order. -/
def Ledger.Like (L : Likeness) (ledger ledger' : Ledger) : Prop :=
  ledger.issuances.Like (· = ·) (Issuance.Like L) ledger'.issuances

/-- What recording answers is alike. -/
def Issuance.NotedLike (L : Likeness) (a a' : Bool × Issuance) : Prop :=
  a.1 = a'.1 ∧ a.2.Like L a'.2

theorem iff_of_eq_of_eq {κ : Type} {k x x' : κ} (h : x = x') : x = k ↔ x' = k := by rw [h]

theorem Ledger.like_record {ledger ledger' : Ledger} {entry entry' : Issuance}
    (h : ledger.Like L ledger') (he : entry.Like L entry') :
    Outcome.Like L (Ledger.Like L) (Issuance.NotedLike L) (ledger.record entry)
      (ledger'.record entry') := by
  have hfind : Option.Rel (Issuance.Like L) (ledger.find? entry.itemId entry.provider)
      (ledger'.find? entry'.itemId entry'.provider) := by
    rw [he.itemId, he.provider]
    exact Assoc.Like.get? h iff_of_eq_of_eq
  unfold record
  obtain ⟨hn, hn'⟩ | ⟨x, x', hx, hx', hl⟩ := OptionRel.none_or_some hfind
  · rw [hn, hn']
    refine .ok ?_ ⟨rfl, he⟩ fun _ => rfl
    rw [he.itemId, he.provider]
    exact Assoc.Like.insert h rfl iff_of_eq_of_eq he
  · rw [hx, hx']
    refine .ok h ⟨rfl, hl⟩ fun _ => ?_
    rw [he.itemId, he.provider, he.fingerprint, hl.fingerprint]

end Patronage
