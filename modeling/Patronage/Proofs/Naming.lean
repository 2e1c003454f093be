import Patronage.Proofs.Shift
import Patronage.Proofs.Spelling
/-!
# What identifiers name

Customers and subscriptions are filed under their own identifiers, and every identifier in use was
drawn before.  Where all identifiers drawn differ, a new one therefore never replaces what is there.
Main statements:

* `Emulator.Shift.named` — a call keeps everything filed where it belongs;
* `Emulator.Shift.subscription` — what a call does to what is filed under one identifier;
* `Course.named_after` — identifiers in use stay among those drawn.
-/

namespace Patronage

namespace OptionRel

variable {α β : Type} {r : α → β → Prop} {o : Option α} {o' : Option β}

theorem exists_of_left (h : Option.Rel r o o') {a : α} (ha : o = some a) :
    ∃ b, o' = some b ∧ r a b := by
  subst ha
  cases h with
  | some hr => exact ⟨_, rfl, hr⟩

theorem exists_of_right (h : Option.Rel r o o') {b : β} (hb : o' = some b) :
    ∃ a, o = some a ∧ r a b := by
  subst hb
  cases h with
  | some hr => exact ⟨_, rfl, hr⟩

end OptionRel

namespace Emulator

/-- Customers and subscriptions are filed under their identifiers, which are among some given ones,
and so are payment items. -/
structure Named (ids : List String) (e : Emulator) : Prop where
  subscription : ∀ {id s}, e.subscriptions.get? id = some s → s.id = id ∧ id ∈ ids
  customer : ∀ {id c}, e.customers.get? id = some c → c.id = id ∧ id ∈ ids
  item : ∀ {id s cycle x}, e.subscriptions.get? id = some s → s.items.get? cycle = some x → x ∈ ids

theorem Named.mono {ids ids' : List String} {e : Emulator} (h : e.Named ids) (hs : ids ⊆ ids') :
    e.Named ids' :=
  ⟨fun hg => ⟨(h.subscription hg).1, hs (h.subscription hg).2⟩,
    fun hg => ⟨(h.customer hg).1, hs (h.customer hg).2⟩, fun hg hx => hs (h.item hg hx)⟩

end Emulator

/-- What a call may do to one subscription. -/
inductive Subscription.Shift (m : Mint) (p : Provider) (c : Call) (d : Option String)
    (s : Subscription) : Subscription → Prop
  | same : s.Shift m p c d s
  | moved (read : Subscription) (templateId : String) (level : Int) (key currency : String)
    (call : c = .updateSubscription p read templateId level key) (id : read.id = s.id)
    (active : s.status = .active) : s.Shift m p c d { s with currency, templateId, level }
  | billed (cycle : Nat) (item : String) (call : c = .receiptItem p s.id) (drawn : d = some item)
    (active : s.status = .active) (unbilled : s.items.get? cycle = none) :
    s.Shift m p c d { s with items := s.items.insert cycle item }
  | closed (customerId : String) (call : c = .cancelAll p customerId)
    (active : s.isActiveOf customerId) : s.Shift m p c d (s.cancel m.now)

namespace Emulator.Shift

variable {m : Mint} {p : Provider} {e : Emulator} {c : Call} {s : Emulator × TokenSource}
  {d : Option String} {ids : List String}

/-- A call makes a subscription of its own, or it changes what is filed under an identifier in one
of a few ways. -/
theorem subscription (h : e.Shift m p c s d) (hn : e.Named ids) (id : String) :
    (∃ customerId templateId level last currency,
      c = .createSubscription p customerId templateId level last ∧ d = some id ∧
      s.1.subscriptions.get? id =
        some ⟨id, customerId, templateId, level, currency, .active, m.now, none, .empty⟩) ∨
    Option.Rel (Subscription.Shift m p c d) (e.subscriptions.get? id)
      (s.1.subscriptions.get? id) := by
  have rest : Option.Rel (Subscription.Shift m p c d) (e.subscriptions.get? id)
      (e.subscriptions.get? id) := by
    cases e.subscriptions.get? id with
    | none => exact .none
    | some sub => exact .some .same
  cases h with
  | same | customer => exact .inr rest
  | opened customerId templateId level last currency =>
    by_cases he : m.identifier e.idLead .subscription = id
    · exact .inl ⟨customerId, templateId, level, last, currency, rfl, congrArg some he,
        by simp [withSubscription, he]⟩
    · exact .inr (by simpa [withSubscription, he] using rest)
  | moved read sub templateId level key currency known active =>
    -- what is written is filed under its own identifier, so that must be where it was found
    obtain ⟨hid, -⟩ := hn.subscription known
    by_cases he : sub.id = id
    · subst he
      rw [← hid] at known
      simp only [Emulator.moved, Assoc.get?_insert, if_pos, known]
      exact .inr (.some (.moved read templateId level key currency rfl hid.symm active))
    · exact .inr (by simpa [Emulator.moved, he] using rest)
  | billed id' sub cycle known active unbilled =>
    obtain ⟨hid, -⟩ := hn.subscription known
    by_cases he : sub.id = id
    · subst he
      rw [← hid] at known
      simp only [Emulator.billed, Assoc.get?_insert, if_pos, known]
      exact .inr (.some (.billed cycle _ (by rw [hid]) rfl active unbilled))
    · exact .inr (by simpa [Emulator.billed, he] using rest)
  | closed customerId known =>
    simp only [Emulator.closed, Assoc.get?_mapValues]
    cases e.subscriptions.get? id with
    | none => exact .inr .none
    | some sub =>
      refine .inr (.some ?_)
      by_cases ha : sub.isActiveOf customerId
      · simpa only [ha, if_true] using .closed customerId rfl ha
      · simpa only [ha, if_false] using .same

/-- What becomes of a subscription that was there. -/
theorem before {id : String} (h : e.Shift m p c s d) (hn : e.Named ids) (hd : d ≠ some id)
    {sub : Subscription} (hsub : e.subscriptions.get? id = some sub) :
    ∃ sub', s.1.subscriptions.get? id = some sub' ∧ sub.Shift m p c d sub' := by
  obtain ⟨_, _, _, _, _, _, hd', _⟩ | hrel := h.subscription hn id
  · exact absurd hd' hd
  · exact OptionRel.exists_of_left hrel hsub

/-- Where a subscription that is there comes from. -/
theorem after {id : String} (h : e.Shift m p c s d) (hn : e.Named ids) {sub' : Subscription}
    (hsub' : s.1.subscriptions.get? id = some sub') :
    (∃ sub, e.subscriptions.get? id = some sub ∧ sub.Shift m p c d sub') ∨
      ∃ customerId templateId level last currency,
        c = .createSubscription p customerId templateId level last ∧ d = some id ∧
        sub' = ⟨id, customerId, templateId, level, currency, .active, m.now, none, .empty⟩ := by
  obtain ⟨customerId, templateId, level, last, currency, hc, hd, hnew⟩ | hrel :=
    h.subscription hn id
  · exact .inr ⟨customerId, templateId, level, last, currency, hc, hd,
      Option.some.inj (hsub'.symm.trans hnew)⟩
  · exact .inl (OptionRel.exists_of_right hrel hsub')

/-- A call keeps everything filed where it belongs. -/
theorem named (h : e.Shift m p c s d) (hn : e.Named ids) : s.1.Named (ids ++ d.toList) := by
  have old : ids ⊆ ids ++ d.toList := List.subset_append_left _ _
  have new : ∀ {x}, d = some x → x ∈ ids ++ d.toList := by rintro x rfl; simp
  refine ⟨fun {id sub'} hsub' => ?_, fun {id r} hr => ?_, fun {id sub' cycle x} hsub' hx => ?_⟩
  · obtain ⟨sub, hsub, hs⟩ | ⟨_, _, _, _, _, _, hd, rfl⟩ := h.after hn hsub'
    · obtain ⟨hid, hmem⟩ := hn.subscription hsub
      cases hs <;> exact ⟨hid, old hmem⟩
    · exact ⟨rfl, new hd⟩
  · -- only a new customer is filed anew
    have kept : e.customers.get? id = some r → r.id = id ∧ id ∈ ids ++ d.toList :=
      fun hr => ⟨(hn.customer hr).1, old (hn.customer hr).2⟩
    cases h with
    | customer user platform =>
      by_cases he : m.identifier e.idLead .customer = id
      · simp only [withCustomer, he, Assoc.get?_insert, if_pos, Option.some.injEq] at hr
        exact ⟨by rw [← hr], new (congrArg some he)⟩
      · exact kept (by simpa [withCustomer, he] using hr)
    | same | opened | moved | billed | closed => exact kept hr
  · obtain ⟨sub, hsub, hs⟩ | ⟨_, _, _, _, _, _, hd, rfl⟩ := h.after hn hsub'
    · cases hs with
      | same | moved | closed => exact old (hn.item hsub hx)
      | billed cycle' item _ hd =>
        by_cases he : cycle' = cycle
        · simp only [he, Assoc.get?_insert, if_pos, Option.some.injEq] at hx
          exact hx ▸ new hd
        · exact old (hn.item hsub (by simpa [he] using hx))
    · simp at hx

end Emulator.Shift

/-! ### Registries -/

namespace Registry

/-- The customer filed under an identifier at a provider. -/
def customer? (r : Registry) (p : Provider) (id : String) : Option RemoteCustomer :=
  (r.find? p).bind (·.customers.get? id)

/-- The subscription filed under an identifier at a provider. -/
def subscription? (r : Registry) (p : Provider) (id : String) : Option Subscription :=
  (r.find? p).bind (·.subscriptions.get? id)

/-- The subscription made for a customer of a provider and the seconds of its previous creation. -/
def created? (r : Registry) (p : Provider) (customerId : String) (last : Int) : Option String :=
  (r.find? p).bind (·.createdByKey.get? (customerId, last))

variable (r : Registry) (p q : Provider) (e : Emulator)

@[simp] theorem customer?_set (id : String) :
    (r.set p e).customer? q id = if p = q then e.customers.get? id else r.customer? q id := by
  unfold customer?
  rw [find?_set]
  split <;> rfl

@[simp] theorem subscription?_set (id : String) :
    (r.set p e).subscription? q id =
      if p = q then e.subscriptions.get? id else r.subscription? q id := by
  unfold subscription?
  rw [find?_set]
  split <;> rfl

@[simp] theorem created?_set (customerId : String) (last : Int) :
    (r.set p e).created? q customerId last =
      if p = q then e.createdByKey.get? (customerId, last) else r.created? q customerId last := by
  unfold created?
  rw [find?_set]
  split <;> rfl

variable {r p e}

theorem customer?_of_find? (h : r.find? p = some e) (id : String) :
    r.customer? p id = e.customers.get? id := by
  simp [customer?, h]

theorem subscription?_of_find? (h : r.find? p = some e) (id : String) :
    r.subscription? p id = e.subscriptions.get? id := by
  simp [subscription?, h]

theorem created?_of_find? (h : r.find? p = some e) (customerId : String) (last : Int) :
    r.created? p customerId last = e.createdByKey.get? (customerId, last) := by
  simp [created?, h]

end Registry

/-! ### Courses -/

namespace Course

/-- Every processor has everything filed under identifiers drawn so far. -/
def Named (s : Course) : Prop :=
  ∀ {p e}, s.world.registry.find? p = some e → e.Named s.drawn

theorem Named.alike {s s' : Course} (h : s.Named) (ha : s.Alike s') : s'.Named := by
  intro p e he
  rw [ha.world.registry] at he
  exact ha.drawn ▸ h he

/-- The course after a call took effect. -/
def after (rules : Rules) (c : Call) (s : Course) : Course :=
  ⟨(s.world.answer rules c).2, s.past ++ [(s.world, c)]⟩

theorem ask_eq_or (rules : Rules) (luck : Luck) (c : Call) (s : Course) :
    (ask rules luck c s).2 = s ∨ (ask rules luck c s).2 = s.after rules c := by
  cases luck with
  | before m => exact .inl rfl
  | fine | after m => exact .inr rfl

/-- A call that answers took effect. -/
theorem ask_eq_ok {rules : Rules} {luck : Luck} {c : Call} {s : Course} {a : c.Answer}
    (h : (ask rules luck c s).1 = .ok a) :
    (s.world.answer rules c).1 = .ok a ∧ (ask rules luck c s).2 = s.after rules c := by
  cases luck with
  | fine => exact ⟨h, rfl⟩
  | before m | after m => cases h

theorem drawn_after (rules : Rules) (c : Call) (s : Course) :
    (s.after rules c).drawn = s.drawn ++ (s.world.drawn? c).toList := by
  simp only [drawn, after, List.filterMap_append, List.filterMap_cons, List.filterMap_nil]
  cases s.world.drawn? c <;> rfl

theorem nodup_of_after {s : Course} {rules : Rules} {c : Call}
    (h : (s.after rules c).drawn.Nodup) : s.drawn.Nodup :=
  nodup_mono (List.prefix_append _ _) h

/-- What every operation keeps of a processor, every call keeps of all of them. -/
theorem forall_after {P : List String → Provider → Emulator → Prop} {s : Course}
    (h : ∀ {p e}, s.world.registry.find? p = some e → P s.drawn p e) (rules : Rules) (c : Call)
    (mono : ∀ {p e}, P s.drawn p e → P (s.after rules c).drawn p e)
    (step : ∀ {p e e' t}, s.world.registry.find? p = some e →
      e.Shift s.world.mint p c (e', t) (s.world.drawn? c) → P s.drawn p e →
      P (s.after rules c).drawn p e')
    {p : Provider} {e : Emulator} (he : (s.after rules c).world.registry.find? p = some e) :
    P (s.after rules c).drawn p e := by
  cases s.world.shift_answer rules c with
  | same registry => exact mono (h (by rwa [after, registry] at he))
  | «at» q e₀ e' t find shift registry =>
    by_cases hq : q = p
    · subst hq
      obtain rfl : e' = e := by simpa [after, registry] using he
      exact step find shift (h find)
    · exact mono (h (by simpa [after, registry, hq] using he))

/-- Identifiers in use stay among those drawn. -/
theorem named_after {s : Course} (h : s.Named) (rules : Rules) (c : Call) :
    (s.after rules c).Named :=
  forall_after (P := fun ids _ e => e.Named ids) h rules c
    (fun hn => hn.mono (by rw [drawn_after]; exact List.subset_append_left _ _))
    fun _ hs hn => by rw [drawn_after]; exact hs.named hn

end Course

/-- Nothing is filed in a fresh world. -/
theorem World.Fresh.named {w : World} (h : w.Fresh) : Course.Named ⟨w, []⟩ := by
  intro p e he
  obtain ⟨hc, hs, -⟩ := h.registry he
  exact ⟨by simp [hs], by simp [hc], by simp [hs]⟩

theorem World.Fresh.subscription? {w : World} (h : w.Fresh) (p : Provider) (id : String) :
    w.registry.subscription? p id = none := by
  cases he : w.registry.find? p with
  | none => simp [Registry.subscription?, he]
  | some e => rw [Registry.subscription?_of_find? he, (h.registry he).2.1, Assoc.get?_empty]

theorem World.Fresh.created? {w : World} (h : w.Fresh) (p : Provider) (customerId : String)
    (last : Int) : w.registry.created? p customerId last = none := by
  cases he : w.registry.find? p with
  | none => simp [Registry.created?, he]
  | some e => rw [Registry.created?_of_find? he, (h.registry he).2.2, Assoc.get?_empty]

/-! ### Distinct identifiers -/

namespace Identifier

/-- The stamp holds no underscore, so identifiers tell tokens of one length apart. -/
theorem token_inj {lead lead' : String} {kind kind' : IdKind} {token token' : List Char}
    {millis millis' : Int} (hlen : token.length = token'.length)
    (h : write lead kind token millis = write lead' kind' token' millis') : token = token' := by
  have hspell := congrArg String.toList h
  rw [toList_write, toList_write] at hspell
  have hstamp (millis : Int) : '_' ∉ Text.decimalInt millis :=
    Text.not_mem_decimalInt millis (by decide) (by decide)
  exact (spell_inj (hstamp millis) (hstamp millis') hlen hspell).2.2.1

end Identifier

/-- The tokens drawn so far differ, and all have one length. -/
structure TokenSource.Distinct (t : TokenSource) : Prop where
  injective : ∀ {i j}, i < t.drawn → j < t.drawn → t.token i = t.token j → i = j
  length : ∀ i j, (t.token i).length = (t.token j).length

namespace Course

/-- The identifiers drawn hold tokens drawn, and they differ if those do. -/
structure Traced (s : Course) : Prop where
  token : ∀ {x}, x ∈ s.drawn → ∃ lead kind n millis, n < s.world.tokens.drawn ∧
    x = Identifier.write lead kind (s.world.tokens.token n) millis
  nodup : s.world.tokens.Distinct → s.drawn.Nodup

theorem Traced.after {s : Course} (h : s.Traced) (rules : Rules) (c : Call) :
    (s.after rules c).Traced := by
  -- a call that draws nothing leaves the supply as it is
  have quiet : s.world.drawn? c = none → (s.after rules c).world.tokens = s.world.tokens →
      (s.after rules c).Traced := by
    intro hd ht
    have hdrawn : (s.after rules c).drawn = s.drawn := by simp [drawn_after, hd]
    exact ⟨by rw [hdrawn, ht]; exact h.token, by rw [hdrawn, ht]; exact h.nodup⟩
  cases s.world.shift_answer rules c with
  | same registry drawn tokens => exact quiet drawn tokens
  | «at» p e e' t find shift registry tokens =>
    obtain ⟨ht, hd⟩ | ⟨ht, kind, -, hd⟩ := shift.drawn
    · exact quiet hd (tokens.trans ht)
    · have htokens : (s.after rules c).world.tokens = s.world.tokens.advance := tokens.trans ht
      have hdrawn : (s.after rules c).drawn =
          s.drawn ++ [s.world.mint.identifier e.idLead kind] := by
        simp [drawn_after, hd]
      refine ⟨fun {x} hx => ?_, fun hdist => ?_⟩
      · rw [hdrawn, List.mem_append, List.mem_singleton] at hx
        rw [htokens]
        obtain hx | rfl := hx
        · obtain ⟨lead, kind, n, millis, hn, rfl⟩ := h.token hx
          exact ⟨lead, kind, n, millis, Nat.lt_succ_of_lt hn, rfl⟩
        · exact ⟨_, kind, _, _, Nat.lt_succ_self _, rfl⟩
      · rw [htokens] at hdist
        have old : s.world.tokens.Distinct :=
          ⟨fun hi hj => hdist.injective (Nat.lt_succ_of_lt hi) (Nat.lt_succ_of_lt hj), hdist.length⟩
        rw [hdrawn, List.nodup_append]
        refine ⟨h.nodup old, by simp, fun x hx y hy hxy => ?_⟩
        obtain rfl := List.mem_singleton.1 hy
        obtain ⟨lead, kind', n, millis, hn, rfl⟩ := h.token hx
        -- the token of the new identifier was drawn last
        have hsame := Identifier.token_inj (hdist.length _ _) hxy
        have := hdist.injective (Nat.lt_succ_of_lt hn) (Nat.lt_succ_self _) hsame
        omega

end Course

/-- What holds at first and calls that took effect keep holds along every run in memory. -/
theorem System.forall_play_inMemory {P : Course → Prop}
    (alike : ∀ {s s'}, s.Alike s' → P s → P s') (after : ∀ rules c s, P s → P (s.after rules c))
    {s : System} (h : P s.course) (moves : List (Move (Rules × Luck))) :
    P (s.play .inMemory moves).course := by
  refine forall_play alike (fun i c s hs => ?_) h moves
  obtain heq | heq := s.ask_eq_or i.1 i.2 c
  · exact heq.symm ▸ hs
  · exact heq.symm ▸ after i.1 c s hs

/-- Whatever happens in memory, the identifiers drawn differ if the tokens drawn do. -/
theorem System.nodup_drawn {ι : Type} {v : Service ι}
    (hv : ∀ i c s, ∃ rules luck, v i c s = s.ask rules luck c) (w : World) (moves : List (Move ι))
    (h : ((start w).play v moves).course.world.tokens.Distinct) :
    ((start w).play v moves).course.drawn.Nodup := by
  have hstart : (start w).course.Traced := ⟨by simp [start, Course.drawn], fun _ => List.nodup_nil⟩
  refine (forall_play (P := Course.Traced) ?_ ?_ hstart moves).nodup h
  · intro s s' ha hs
    exact ⟨by rw [ha.drawn, ha.world.tokens]; exact hs.token,
      by rw [ha.drawn, ha.world.tokens]; exact hs.nodup⟩
  · intro i c s hs
    obtain ⟨rules, luck, hvs⟩ := hv i c s
    rw [hvs]
    obtain h | h := s.ask_eq_or rules luck c
    · exact h.symm ▸ hs
    · exact h.symm ▸ hs.after _ c

end Patronage
