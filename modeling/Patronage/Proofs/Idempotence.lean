import Patronage.Proofs.Linkage
import Patronage.Proofs.Processing
/-!
# Idempotency keys

A processor notes what an idempotency key stands for when it grants a change of level, together with
the change, and never goes back on that.  From then on the key moves nothing, whatever becomes of
the subscription.  Main statements:

* `Emulator.pins_of_get?` — what asking under a key that was used does;
* `Emulator.Order.get?_updatedByKey_iff` — a key is used up by a change that is granted under it, by
  nothing else, and for good;
* `Emulator.takes_effect_once` — a key moves a subscription once at most, stands for the first
  change that is granted under it, and is free as long as none is.
-/

namespace Patronage

namespace Emulator

/-! ### Asking under a key -/

/-- A key stands for a request: that is answered as it was, any other one is refused, and nothing
changes either way. -/
structure Pins (e : Emulator) (key : String) (r : LevelRequest) : Prop where
  replayed : (e.updateSubscription r key).answer = .ok r.subscriptionId
  refused : ∀ r', r' ≠ r → (e.updateSubscription r' key).answer =
    .error (e.fault ProcessorError.keyInUse
      s!"Key {key} was used with different request parameters")
  unchanged : ∀ r', (e.updateSubscription r' key).state = e

variable {e : Emulator} {m : Mint} {o : Operation} {s : Emulator × TokenSource} {d : Option String}
  {key id : String} {r : LevelRequest}

/-- What asking under a key that was used does. -/
theorem pins_of_get? (h : e.updatedByKey.get? key = some r) : e.Pins key r := by
  refine ⟨?_, fun r' hr' => ?_, fun r' => ?_⟩
  · simp only [updateSubscription, h, ↓reduceIte]
    rfl
  · simp only [updateSubscription, h, if_neg (Ne.symm hr')]
    rfl
  · simp only [updateSubscription, h]
    split <;> rfl

/-- A change that is granted uses the key up for it. -/
theorem get?_updatedByKey_of_answer (h : (e.updateSubscription r key).answer = .ok id) :
    (e.updateSubscription r key).state.updatedByKey.get? key = some r := by
  rcases e.updateSubscription_cases r key with
    ⟨f, hfail⟩ | ⟨hkey, events, hreplay⟩ | ⟨-, sub, currency, events, -, hmove⟩
  · rw [hfail] at h
    cases h
  · rw [hreplay]
    exact hkey
  · rw [hmove]
    exact (Assoc.get?_insert _ _ _ _).trans (if_pos rfl)

/-- Under a key that is free a change is granted for a running subscription and a template that
there is. -/
theorem granted_iff_of_free (h : e.updatedByKey.get? key = none) :
    (∃ id, (e.updateSubscription r key).answer = .ok id) ↔
      (∃ sub, e.activeSubscription r.subscriptionId = .ok sub) ∧
        (e.templates.get? r.templateId).isSome := by
  simp only [updateSubscription, h, moveLevel]
  constructor
  · rintro ⟨id, hid⟩
    split at hid
    · cases hid
    · cases hid
    · rename_i sub currency hsub hpriced
      exact ⟨⟨sub, hsub⟩, by simp [currencyOf_eq_ok.1 hpriced]⟩
  · rintro ⟨⟨sub, hsub⟩, hpriced⟩
    obtain ⟨currency, hcurrency⟩ := Option.isSome_iff_exists.1 hpriced
    simp only [hsub, currencyOf_eq_ok.2 hcurrency]
    exact ⟨sub.id, rfl⟩

/-- A change that is refused leaves everything as it is. -/
theorem state_of_refused {f : Fault} (h : (e.updateSubscription r key).answer = .error f) :
    (e.updateSubscription r key).state = e := by
  rcases e.updateSubscription_cases r key with
    ⟨f, hfail⟩ | ⟨-, events, hreplay⟩ | ⟨-, sub, currency, events, -, hmove⟩
  · rw [hfail]
    rfl
  · rw [hreplay]
    rfl
  · rw [hmove] at h
    cases h

/-- What is refused under a key that was used is refused for that. -/
theorem get?_updatedByKey_of_refused {f : Fault}
    (h : (e.updateSubscription r key).answer = .error f)
    (hf : f ≠ e.fault ProcessorError.keyInUse
      s!"Key {key} was used with different request parameters") :
    e.updatedByKey.get? key = none := by
  cases hkey : e.updatedByKey.get? key with
  | none => rfl
  | some r' =>
    have hpins := pins_of_get? hkey
    by_cases hr : r = r'
    · subst hr
      cases h.symm.trans hpins.replayed
    · exact absurd (Except.error.inj (h.symm.trans (hpins.refused r hr))) hf

/-! ### Keys in a run -/

/-- No operation takes a key back. -/
theorem Edit.get?_updatedByKey (h : e.Edit m o s d) (hkey : e.updatedByKey.get? key = some r) :
    s.1.updatedByKey.get? key = some r := by
  cases h with
  | idle | marked => exact hkey
  | shift call _ _ _ hshift =>
    cases hshift with
    | same | customer | opened | billed | closed => exact hkey
    | moved read sub templateId level key' currency _ _ _ unused =>
      -- a key that is used up now was free before
      have hne : key' ≠ key := fun he => by
        rw [he, hkey] at unused
        cases unused
      exact (Assoc.get?_insert _ _ _ _).trans ((if_neg hne).trans hkey)

/-- Only a change of level uses a key up. -/
theorem Edit.updatedByKey (h : e.Edit m o s d)
    (ho : ∀ read templateId level key, o ≠ .updateSubscription read templateId level key) :
    s.1.updatedByKey = e.updatedByKey := by
  cases h with
  | idle | marked => rfl
  | shift call known _ _ hshift =>
    cases hshift with
    | same | customer | opened | billed | closed => rfl
    | moved read sub templateId level key =>
      cases o with
      | updateSubscription => exact absurd rfl (ho _ _ _ _)
      | _ => cases known

/-- Orders take no key back. -/
theorem get?_updatedByKey_run (os : List Order) (hkey : s.1.updatedByKey.get? key = some r) :
    (run s os).1.updatedByKey.get? key = some r := by
  induction os generalizing s with
  | nil => exact hkey
  | cons od os ih =>
    rw [run_cons]
    exact ih ((od.edit s).get?_updatedByKey hkey)

/-- The change of level that an order asks for, with its key. -/
def Order.change? : Order → Option (String × LevelRequest)
  | ⟨.updateSubscription read templateId level key, _⟩ => some (key, ⟨read.id, templateId, level⟩)
  | _ => none

/-- A change of level is all that its order does. -/
theorem Order.next_of_change? {od : Order} (h : od.change? = some (key, r)) :
    od.next s = ((s.1.updateSubscription r key).state, s.2) := by
  obtain ⟨o, now⟩ := od
  cases o with
  | updateSubscription =>
    obtain ⟨rfl, rfl⟩ := Prod.mk.inj (Option.some.inj h)
    rfl
  | _ => cases h

/-- A key stands for what it stood for, or for the change that is granted under it now. -/
theorem Order.get?_updatedByKey_iff (od : Order) :
    (od.next s).1.updatedByKey.get? key = some r ↔ s.1.updatedByKey.get? key = some r ∨
      od.change? = some (key, r) ∧ ∃ id, (s.1.updateSubscription r key).answer = .ok id := by
  constructor
  · intro h
    obtain ⟨o, now⟩ := od
    cases o with
    | updateSubscription read templateId level key' =>
      rw [next_of_change? rfl] at h
      rcases s.1.updateSubscription_cases ⟨read.id, templateId, level⟩ key' with
        ⟨f, hfail⟩ | ⟨-, events, hreplay⟩ | ⟨-, sub, currency, events, -, hmove⟩
      · rw [hfail] at h
        exact .inl h
      · rw [hreplay] at h
        exact .inl h
      · rw [hmove] at h
        simp only [Outcome.ok, Emulator.moved, Assoc.get?_insert] at h
        split at h
        · rename_i hkey
          subst hkey
          obtain rfl := Option.some.inj h
          exact .inr ⟨rfl, sub.id, by rw [hmove]; rfl⟩
        · exact .inl h
    | _ =>
      rw [(Order.edit ⟨_, now⟩ s).updatedByKey (by rintro _ _ _ _ ⟨⟩)] at h
      exact .inl h
  · rintro (h | ⟨hchange, id, hid⟩)
    · exact (od.edit s).get?_updatedByKey h
    · rw [od.next_of_change? hchange]
      exact get?_updatedByKey_of_answer hid

/-! ### Changes at the positions of a run -/

/-- The change of level that is asked for at a position of a run, with its key. -/
def changeAt? (os : List Order) (i : Nat) : Option (String × LevelRequest) :=
  os[i]?.bind Order.change?

variable {os : List Order} {i j : Nat} {ids : List String}

/-- The state after an order that asks for a change. -/
theorem run_take_succ_of_changeAt? (h : changeAt? os i = some (key, r)) :
    (run s (os.take (i + 1))).1 = ((run s (os.take i)).1.updateSubscription r key).state := by
  obtain ⟨od, hod, hchange⟩ := Option.bind_eq_some_iff.1 h
  rw [List.take_add_one, hod, run_append]
  exact congrArg Prod.fst (od.next_of_change? hchange)

/-- A run up to a position goes on to any later one. -/
theorem run_take_of_le (h : i ≤ j) :
    run s (os.take j) = run (run s (os.take i)) ((os.take j).drop i) := by
  rw [← run_append, ← Nat.min_eq_left h, ← List.take_take, Nat.min_eq_left h,
    List.take_append_drop]

/-- A change is granted under a key at a position of a run, and answered with its subscription. -/
structure Grants (s : Emulator × TokenSource) (os : List Order) (i : Nat) (key : String)
    (r : LevelRequest) : Prop where
  asked : changeAt? os i = some (key, r)
  answer : ((run s (os.take i)).1.updateSubscription r key).answer = .ok r.subscriptionId

theorem grants_of_answer (hn : s.1.Named ids) (hi : changeAt? os i = some (key, r))
    (h : ((run s (os.take i)).1.updateSubscription r key).answer = .ok id) :
    Grants s os i key r := by
  refine ⟨hi, ?_⟩
  rw [h, updateSubscription_answer (hn.run (os.take i)) h]

/-- A key stands for the change that it was granted for, from then on. -/
theorem Grants.pins (h : Grants s os i key r) (hij : i < j) :
    (run s (os.take j)).1.Pins key r := by
  refine pins_of_get? ?_
  rw [run_take_of_le (Nat.succ_le_of_lt hij)]
  refine get?_updatedByKey_run _ ?_
  rw [run_take_succ_of_changeAt? h.asked]
  exact get?_updatedByKey_of_answer h.answer

/-- A key that was free stands for a change that was granted under it. -/
theorem exists_grants (hn : s.1.Named ids) (hfree : s.1.updatedByKey.get? key = none)
    (h : (run s (os.take j)).1.updatedByKey.get? key = some r) : ∃ i < j, Grants s os i key r := by
  induction j with
  | zero => cases hfree.symm.trans h
  | succ j ih =>
    have earlier : (run s (os.take j)).1.updatedByKey.get? key = some r →
        ∃ i < j + 1, Grants s os i key r := fun h =>
      let ⟨i, hi, hgrants⟩ := ih h
      ⟨i, Nat.lt_succ_of_lt hi, hgrants⟩
    rw [List.take_add_one, run_append] at h
    cases hod : os[j]? with
    | none =>
      rw [hod] at h
      exact earlier h
    | some od =>
      rw [hod] at h
      obtain h | ⟨hchange, id, hid⟩ := od.get?_updatedByKey_iff.1 h
      · exact earlier h
      · exact ⟨j, Nat.lt_succ_self j,
          grants_of_answer hn (Option.bind_eq_some_iff.2 ⟨od, hod, hchange⟩) hid⟩

/-- What is asked for at a position of a run moves a subscription. -/
def Moves (s : Emulator × TokenSource) (os : List Order) (i : Nat) : Prop :=
  (run s (os.take (i + 1))).1.subscriptions ≠ (run s (os.take i)).1.subscriptions

instance (s : Emulator × TokenSource) (os : List Order) (i : Nat) : Decidable (Moves s os i) :=
  inferInstanceAs (Decidable (_ ≠ _))

/-- A change that moves a subscription was granted. -/
theorem Moves.grants (h : Moves s os i) (hn : s.1.Named ids)
    (hi : changeAt? os i = some (key, r)) : Grants s os i key r := by
  cases hanswer : ((run s (os.take i)).1.updateSubscription r key).answer with
  | ok id => exact grants_of_answer hn hi hanswer
  | error f =>
    refine absurd ?_ h
    rw [run_take_succ_of_changeAt? hi, state_of_refused hanswer]

/-- After a change that was granted none moves a subscription under its key. -/
theorem Grants.le {r' : LevelRequest} (h : Grants s os i key r) (h' : Moves s os j)
    (hj : changeAt? os j = some (key, r')) : j ≤ i := by
  refine Nat.le_of_not_lt fun hij => h' ?_
  rw [run_take_succ_of_changeAt? hj, (h.pins hij).unchanged]

/-- An idempotency key takes effect once at most.  Of the changes asked for under it in a run, one
at most moves a subscription, and that one is granted.  Once a change is granted under it, that
change is answered so ever after, any other one is refused, and nothing changes either way.  As long
as none is, one is granted exactly for a running subscription and a template that there is.  And a
change that is not granted fails, which changes nothing and leaves the key free unless it fails
because the key is in use. -/
theorem takes_effect_once (provider : Provider) (settings : Settings) (tokens : TokenSource)
    (os : List Order) (key : String) :
    let start := (ofSettings provider settings, tokens)
    let upTo := fun i => (run start (os.take i)).1
    (∀ i j r r', changeAt? os i = some (key, r) → changeAt? os j = some (key, r') →
      Moves start os i → Moves start os j → i = j) ∧
    (∀ i r, changeAt? os i = some (key, r) → Moves start os i → Grants start os i key r) ∧
    (∀ i r, Grants start os i key r → ∀ j, i < j → (upTo j).Pins key r) ∧
    (∀ j r, changeAt? os j = some (key, r) → (∀ i < j, ∀ r', ¬Grants start os i key r') →
      (Grants start os j key r ↔
        (∃ sub, (upTo j).activeSubscription r.subscriptionId = .ok sub) ∧
          ((upTo j).templates.get? r.templateId).isSome)) ∧
    (∀ i r, changeAt? os i = some (key, r) → Grants start os i key r ∨
      ∃ f, ((upTo i).updateSubscription r key).answer = .error f ∧ upTo (i + 1) = upTo i ∧
        (f ≠ (upTo i).fault ProcessorError.keyInUse
            s!"Key {key} was used with different request parameters" →
          (upTo (i + 1)).updatedByKey.get? key = none)) := by
  intro start upTo
  have hnamed : start.1.Named [] := (tabled_ofSettings provider settings).1
  refine ⟨?_, fun i r hi h => h.grants hnamed hi, fun i r h j hij => h.pins hij, ?_, ?_⟩
  · intro i j r r' hi hj h h'
    exact Nat.le_antisymm ((h'.grants hnamed hj).le h hi) ((h.grants hnamed hi).le h' hj)
  · intro j r hj hnone
    have hfree : (upTo j).updatedByKey.get? key = none := by
      cases hkey : (upTo j).updatedByKey.get? key with
      | none => rfl
      | some r' =>
        obtain ⟨i, hij, h⟩ := exists_grants hnamed rfl hkey
        exact absurd h (hnone i hij r')
    rw [← granted_iff_of_free hfree]
    exact ⟨fun h => ⟨_, h.answer⟩, fun ⟨id, h⟩ => grants_of_answer hnamed hj h⟩
  · intro i r hi
    cases hanswer : ((upTo i).updateSubscription r key).answer with
    | ok id => exact .inl (grants_of_answer hnamed hi hanswer)
    | error f =>
      have hstate : upTo (i + 1) = upTo i :=
        (run_take_succ_of_changeAt? hi).trans (state_of_refused hanswer)
      refine .inr ⟨f, rfl, hstate, fun hf => ?_⟩
      rw [hstate]
      exact get?_updatedByKey_of_refused hanswer hf

namespace Sample

/-- A key is used for a template that there is none of, then for a move; the subscription is moved
on under another key and canceled, and the key is used again. -/
def reusedOrders : List Order :=
  [.createCustomer [0xaa] .ios, .createSubscription customerId "price_donation_500_usd" 500 0,
    .updateSubscription held "price_donation_500_gbp" 500 "key",
    .updateSubscription held "price_donation_1000_eur" 1000 "key",
    .updateSubscription held "price_donation_500_usd" 500 "other", .cancelAll customerId,
    .updateSubscription held "price_donation_1000_eur" 1000 "key",
    .updateSubscription held "price_donation_500_usd" 500 "key"].map (⟨·, .epoch⟩)

end Sample

/-- The key is free after the change that fails, and stands for the move from then on, also when the
subscription was moved on and canceled. -/
theorem takes_effect_once_reused :
    let upTo := fun i => (run Sample.start (Sample.reusedOrders.take i)).1
    (upTo 3).updatedByKey.get? "key" = none ∧
    Moves Sample.start Sample.reusedOrders 3 ∧ Moves Sample.start Sample.reusedOrders 4 ∧
    ∀ j, 3 < j → (upTo j).Pins "key" ⟨Sample.held.id, "price_donation_1000_eur", 1000⟩ := by
  intro upTo
  obtain ⟨-, hgranted, hpins, -, hfailed⟩ :=
    takes_effect_once .stripe .shipped .counting Sample.reusedOrders "key"
  have hmoves : Moves Sample.start Sample.reusedOrders 3 := by decide +kernel
  have hother : Moves Sample.start Sample.reusedOrders 4 := by decide +kernel
  have hrefused : ((upTo 2).updateSubscription ⟨Sample.held.id, "price_donation_500_gbp", 500⟩
      "key").answer = .error ((upTo 2).fault ProcessorError.invalidTemplate
        "No such price: price_donation_500_gbp") := rfl
  have hfree : (upTo 3).updatedByKey.get? "key" = none := by
    obtain hgrants | ⟨f, hanswer, -, hfree⟩ := hfailed 2 _ rfl
    · cases hrefused.symm.trans hgrants.answer
    · obtain rfl := Except.error.inj (hrefused.symm.trans hanswer)
      exact hfree (by decide +kernel)
  exact ⟨hfree, hmoves, hother, hpins 3 _ (hgranted 3 _ rfl hmoves)⟩

end Emulator

end Patronage
