import Patronage.Proofs.Expiry
import Patronage.Proofs.Lowering
import Patronage.Settings.File
/-!
# Prices and templates

The catalog goes from a level and a currency to a template, and a processor from a template to a
currency.  Both read the same prices.  A price on offer is always found by its level and currency,
and its template is known to every processor; but the processor keeps one currency for a template,
that of the last price which names it, and nothing keeps two prices from naming one template.  Main
statements:

* `Settings.lowered_of_read` — settings that are accepted have currency codes in lower case;
* `Catalog.template_of_price` — the catalog answers with the template of a price;
* `Emulator.templates_ofSettings_iff` — the currency that a processor gives a template;
* `System.priced_play` — in every run processors go by the prices of the settings.
-/

namespace Patronage

open Text Schema

/-! ### Maps that are written as lists -/

namespace Assoc

variable {κ α : Type} [DecidableEq κ]

theorem find_append (k : κ) (es es' : List (κ × α)) :
    find k (es ++ es') = (find k es).or (find k es') := by
  induction es with
  | nil => rfl
  | cons e es ih =>
    obtain ⟨k', v⟩ := e
    rw [List.cons_append, find, find]
    split
    · rfl
    · exact ih

theorem mem_of_find {k : κ} {v : α} {es : List (κ × α)} (h : find k es = some v) :
    (k, v) ∈ es := by
  induction es with
  | nil => cases h
  | cons e es ih =>
    rw [find] at h
    split at h
    · rename_i hk
      obtain rfl := Option.some.inj h
      exact hk ▸ List.mem_cons_self
    · exact List.mem_cons_of_mem _ (ih h)

theorem find_eq_none {k : κ} {es : List (κ × α)} (h : ∀ e ∈ es, e.1 ≠ k) : find k es = none := by
  induction es with
  | nil => rfl
  | cons e es ih =>
    obtain ⟨he, hes⟩ := List.forall_mem_cons.1 h
    rw [find, if_neg he, ih hes]

theorem get?_insertAll (m : Assoc κ α) (es : List (κ × α)) (k : κ) :
    (m.insertAll es).get? k = (find k es.reverse).or (m.get? k) := by
  induction es generalizing m with
  | nil => rfl
  | cons e es ih =>
    have hinsert : (m.insertAll (e :: es)) = (m.insert e.1 e.2).insertAll es := rfl
    rw [hinsert, ih, List.reverse_cons, find_append, Option.or_assoc, get?_insert, find, find]
    split <;> rfl

/-- Of entries with one key the last one counts. -/
theorem get?_ofList (es : List (κ × α)) (k : κ) : (ofList es).get? k = find k es.reverse := by
  rw [ofList, get?_insertAll, get?_empty, Option.or_none]

theorem mem_write {k : κ} {v : α} {es : List (κ × α)} {e : κ × α} (h : e ∈ write k v es) :
    e = (k, v) ∨ e ∈ es := by
  induction es with
  | nil => exact .inl (List.mem_singleton.1 h)
  | cons e' es ih =>
    obtain ⟨k', v'⟩ := e'
    rw [write] at h
    split at h
    · rename_i hk
      obtain rfl | h := List.mem_cons.1 h
      · exact .inl (hk ▸ rfl)
      · exact .inr (List.mem_cons_of_mem _ h)
    · obtain rfl | h := List.mem_cons.1 h
      · exact .inr List.mem_cons_self
      · exact (ih h).imp_right (List.mem_cons_of_mem _)

theorem mem_entries_insertAll {m : Assoc κ α} {es : List (κ × α)} {e : κ × α}
    (h : e ∈ (m.insertAll es).entries) : e ∈ es ∨ e ∈ m.entries := by
  induction es generalizing m with
  | nil => exact .inr h
  | cons e' es ih =>
    obtain h | h := ih h
    · exact .inl (List.mem_cons_of_mem _ h)
    · obtain rfl | h := mem_write h
      · exact .inl List.mem_cons_self
      · exact .inr h

/-- Every entry was written. -/
theorem mem_of_mem_entries_ofList {es : List (κ × α)} {e : κ × α} (h : e ∈ (ofList es).entries) :
    e ∈ es :=
  (mem_entries_insertAll h).resolve_right List.not_mem_nil

/-- A list of entries maps a key to the value of its last entry with that key. -/
theorem get?_ofList_eq_some_iff {es : List (κ × α)} {k : κ} {v : α} :
    (ofList es).get? k = some v ↔
      ∃ before after, es = before ++ (k, v) :: after ∧ ∀ e ∈ after, e.1 ≠ k := by
  rw [get?_ofList]
  constructor
  · induction es with
    | nil => rintro ⟨⟩
    | cons e es ih =>
      intro h
      rw [List.reverse_cons, find_append] at h
      cases hlater : find k es.reverse with
      | some v' =>
        rw [hlater] at h
        obtain ⟨before, after, rfl, hafter⟩ := ih (hlater.trans h)
        exact ⟨e :: before, after, rfl, hafter⟩
      | none =>
        rw [hlater, Option.none_or] at h
        obtain rfl := List.mem_singleton.1 (mem_of_find h)
        refine ⟨[], es, rfl, fun e he hk => ?_⟩
        have hsome := (mem_keys_iff ⟨es.reverse⟩ k).1
          (List.mem_map.2 ⟨e, List.mem_reverse.2 he, hk⟩)
        rw [get?, hlater] at hsome
        cases hsome
  · rintro ⟨before, after, rfl, hafter⟩
    rw [List.reverse_append, List.reverse_cons, List.append_assoc, find_append,
      find_eq_none fun e he => hafter e (List.mem_reverse.1 he), Option.none_or,
      List.singleton_append, find, if_pos rfl]

end Assoc

/-! ### Settings that are accepted -/

theorem exists_of_map_eq_ok {ε α β : Type} {r : Except ε α} {f : α → β} {b : β}
    (h : r.map f = .ok b) : ∃ a, r = .ok a ∧ f a = b := by
  cases r with
  | error e => cases h
  | ok a => exact ⟨a, rfl, Except.ok.inj h⟩

theorem Checked.exists_of_all_eq_ok {α : Type} {xs : List (Checked α)} {ys : List α}
    (h : Checked.all xs = .ok ys) {y : α} (hy : y ∈ ys) : .ok y ∈ xs := by
  induction xs generalizing ys with
  | nil =>
    obtain rfl := Except.ok.inj h
    cases hy
  | cons x xs ih =>
    obtain ⟨⟨z, zs⟩, hboth, rfl⟩ := exists_of_map_eq_ok h
    obtain ⟨rfl, hrest⟩ := Checked.both_eq_ok.1 hboth
    obtain rfl | hy := List.mem_cons.1 hy
    · exact List.mem_cons_self
    · exact List.mem_cons_of_mem _ (ih hrest hy)

/-- What an entry of a mapping was checked to be. -/
theorem Schema.exists_of_eachEntry_eq_ok {κ β : Type} {key : Value → Checked κ}
    {value : Value → Checked β} {es : List (Value × Value)} {ys : List (κ × β)}
    (h : eachEntry key value es = .ok ys) {y : κ × β} (hy : y ∈ ys) :
    ∃ v, value v = .ok y.2 := by
  obtain ⟨e, -, he⟩ := List.mem_map.1 (Checked.exists_of_all_eq_ok h hy)
  exact ⟨e.2, (Checked.both_eq_ok.1 (mapError_eq_ok he)).2⟩

/-- A field that may be missing has its fallback or was checked. -/
theorem Schema.optional_eq_ok {α : Type} {fields : List (Value × Value)} {name : String}
    {fallback a : α} {check : Value → Checked α} (h : optional fields name fallback check = .ok a) :
    a = fallback ∨ ∃ v, check v = .ok a := by
  unfold optional at h
  split at h
  · exact .inr ⟨_, mapError_eq_ok h⟩
  · exact .inl (Except.ok.inj h).symm

/-- The currency codes of a level are in lower case. -/
def Level.Lowered (l : Level) : Prop := ∀ e ∈ l.prices.entries, lowerString e.1 = e.1

/-- All currency codes are in lower case. -/
def Settings.Lowered (s : Settings) : Prop := ∀ e ∈ s.levels.entries, e.2.Lowered

theorem Level.lowered_of_ofValue {v : Value} {l : Level} (h : ofValue v = .ok l) : l.Lowered := by
  obtain ⟨fields, -, h⟩ := exists_of_bind_eq_ok h
  obtain ⟨⟨type, badge, prices⟩, hparts, rfl⟩ := exists_of_map_eq_ok h
  obtain ⟨-, hparts⟩ := Checked.both_eq_ok.1 hparts
  obtain ⟨-, hprices⟩ := Checked.both_eq_ok.1 hparts
  intro price hprice
  obtain rfl | ⟨w, hw⟩ := Schema.optional_eq_ok hprices
  · cases hprice
  · obtain ⟨es, -, hw⟩ := exists_of_bind_eq_ok hw
    obtain ⟨given, -, hw⟩ := exists_of_bind_eq_ok hw
    obtain rfl := Except.ok.inj hw
    obtain ⟨e, -, rfl⟩ := List.mem_map.1 (Assoc.mem_of_mem_entries_ofList hprice)
    exact lowerString_lowerString e.1

namespace Settings

theorem lowered_of_ofFields {fields : Fields} {s : Settings} (h : ofFields fields = .ok s) :
    s.Lowered := by
  obtain ⟨⟨durations, levels, emulator⟩, hparts, rfl⟩ := exists_of_map_eq_ok h
  obtain ⟨-, hparts⟩ := Checked.both_eq_ok.1 hparts
  obtain ⟨hlevels, -⟩ := Checked.both_eq_ok.1 hparts
  intro level hlevel
  obtain rfl | ⟨v, hv⟩ := Schema.optional_eq_ok hlevels
  · cases hlevel
  · obtain ⟨es, -, hv⟩ := exists_of_bind_eq_ok hv
    obtain ⟨entries, hentries, hv⟩ := exists_of_bind_eq_ok hv
    dsimp only at hv
    split at hv
    · obtain rfl := Except.ok.inj hv
      obtain ⟨w, hw⟩ :=
        Schema.exists_of_eachEntry_eq_ok hentries (Assoc.mem_of_mem_entries_ofList hlevel)
      exact Level.lowered_of_ofValue hw
    · cases hv

/-- Settings that are accepted have their currency codes in lower case. -/
theorem lowered_of_read {path : String} {source : Source} {s : Settings}
    (h : read path source = .ok s) : s.Lowered := by
  obtain ⟨v, -, h⟩ := exists_of_bind_eq_ok h
  unfold ofDocument at h
  split at h
  · cases h
  · split at h
    · split at h
      · exact lowered_of_ofFields (mapError_eq_ok h)
      · cases h
    · cases h

end Settings

/-! ### Prices -/

/-- A level has a price in a currency. -/
def Settings.Offers (s : Settings) (n : Int) (code : String) (price : Price) : Prop :=
  ∃ level, s.levels.get? n = some level ∧ level.prices.get? code = some price

/-- The templates of all prices, each with its currency, in the order of the settings. -/
def Settings.priced (s : Settings) : List (String × String) :=
  s.levels.values.flatMap fun l => l.prices.entries.map fun e => (e.2.templateId, e.1)

/-- A template is named last by a price in a currency. -/
def Settings.PricedLast (s : Settings) (templateId code : String) : Prop :=
  ∃ before after, s.priced = before ++ (templateId, code) :: after ∧
    ∀ e ∈ after, e.1 ≠ templateId

namespace Settings

variable {s : Settings} {n : Int} {code : String} {price : Price}

theorem Offers.lowered (h : s.Offers n code price) (hs : s.Lowered) : lowerString code = code := by
  obtain ⟨level, hlevel, hprice⟩ := h
  exact hs (n, level) (Assoc.mem_of_find hlevel) (code, price) (Assoc.mem_of_find hprice)

theorem Offers.mem_priced (h : s.Offers n code price) : (price.templateId, code) ∈ s.priced := by
  obtain ⟨level, hlevel, hprice⟩ := h
  refine List.mem_flatMap.2 ⟨level, ?_, ?_⟩
  · exact List.mem_map.2 ⟨_, Assoc.mem_of_find hlevel, rfl⟩
  · exact List.mem_map.2 ⟨_, Assoc.mem_of_find hprice, rfl⟩

/-- A template that prices in one currency name is named last by one of them. -/
theorem Offers.pricedLast (h : s.Offers n code price)
    (honly : ∀ code', (price.templateId, code') ∈ s.priced → code' = code) :
    s.PricedLast price.templateId code := by
  have hmem := h.mem_priced
  obtain ⟨code', hlast⟩ := Option.isSome_iff_exists.1 <|
    (Assoc.mem_keys_iff ⟨s.priced.reverse⟩ price.templateId).1
      (List.mem_map.2 ⟨_, List.mem_reverse.2 hmem, rfl⟩)
  obtain rfl := honly code' (List.mem_reverse.1 (Assoc.mem_of_find hlast))
  exact Assoc.get?_ofList_eq_some_iff.1 ((Assoc.get?_ofList _ _).trans hlast)

end Settings

/-- The catalog answers with the template of a price, however the currency is written. -/
theorem Catalog.template_of_price {s : Settings} {n : Int} {code written : String} {price : Price}
    (h : s.Offers n code price) (hwritten : lowerString written = code) :
    (⟨s⟩ : Catalog).template n written = .ok price.templateId := by
  obtain ⟨level, hlevel, hprice⟩ := h
  have hget : (⟨s⟩ : Catalog).get n = .ok level := by
    show ((s.levels.get? n).elim _ _ : Except Fault Level) = .ok level
    rw [hlevel]
    rfl
  rw [template, hget]
  simp only [bind, Except.bind, hwritten, hprice]
  rfl

namespace Emulator

variable {s : Settings} {m : Mint} {p : Provider} {e : Emulator} {c : Call}
  {t : Emulator × TokenSource} {d : Option String}

/-- The currency that a processor gives a template is that of the last price which names it. -/
theorem templates_ofSettings_iff (provider : Provider) {templateId code : String} :
    (ofSettings provider s).templates.get? templateId = some code ↔
      s.PricedLast templateId code :=
  Assoc.get?_ofList_eq_some_iff

/-- Whatever prices name is known to a processor. -/
theorem isSome_templates_ofSettings (provider : Provider) {templateId code : String}
    (h : (templateId, code) ∈ s.priced) :
    ((ofSettings provider s).templates.get? templateId).isSome := by
  show ((Assoc.ofList s.priced).get? templateId).isSome
  rw [Assoc.get?_ofList]
  exact (Assoc.mem_keys_iff ⟨s.priced.reverse⟩ templateId).1
    (List.mem_map.2 ⟨_, List.mem_reverse.2 h, rfl⟩)

/-! ### Processors in a run -/

/-- No operation changes what templates cost. -/
theorem Shift.templates (h : e.Shift m p c t d) : t.1.templates = e.templates := by
  cases h <;> rfl

/-- A subscription is priced as one was before, or by its template. -/
theorem Shift.currency (h : e.Shift m p c t d) {id : String} {sub : Subscription}
    (hsub : t.1.subscriptions.get? id = some sub) :
    (∃ id₀ old, e.subscriptions.get? id₀ = some old ∧ sub.currency = old.currency) ∨
      ∃ templateId, e.templates.get? templateId = some sub.currency := by
  cases h with
  | same | customer => exact .inl ⟨id, sub, hsub, rfl⟩
  | opened customerId templateId level last currency known new priced =>
    simp only [withSubscription, Assoc.get?_insert] at hsub
    split at hsub
    · obtain rfl := Option.some.inj hsub
      exact .inr ⟨templateId, priced⟩
    · exact .inl ⟨id, sub, hsub, rfl⟩
  | moved read old templateId level key currency known active priced =>
    simp only [Emulator.moved, Assoc.get?_insert] at hsub
    split at hsub
    · obtain rfl := Option.some.inj hsub
      exact .inr ⟨templateId, priced⟩
    · exact .inl ⟨id, sub, hsub, rfl⟩
  | billed id' old cycle known =>
    simp only [Emulator.billed, Assoc.get?_insert] at hsub
    split at hsub
    · obtain rfl := Option.some.inj hsub
      exact .inl ⟨id', old, known, rfl⟩
    · exact .inl ⟨id, sub, hsub, rfl⟩
  | closed customerId =>
    simp only [Emulator.closed, Assoc.get?_mapValues] at hsub
    obtain ⟨old, hold, rfl⟩ := Option.map_eq_some_iff.1 hsub
    refine .inl ⟨id, old, hold, ?_⟩
    -- a subscription that is canceled keeps its currency
    split <;> rfl

/-- A processor goes by the prices of some settings: it gives templates their currencies, and its
subscriptions are in currencies as they are written there. -/
structure Priced (s : Settings) (e : Emulator) : Prop where
  templates : e.templates = templatesOf s.levels
  lowered : ∀ {id sub}, e.subscriptions.get? id = some sub → lowerString sub.currency = sub.currency

theorem lowered_of_templatesOf (hs : s.Lowered) {templateId code : String}
    (h : (templatesOf s.levels).get? templateId = some code) : lowerString code = code := by
  have hmem := Assoc.mem_of_mem_entries_ofList (Assoc.mem_of_find h)
  obtain ⟨level, hlevel, hprice⟩ := List.mem_flatMap.1 hmem
  obtain ⟨e, he, rfl⟩ := List.mem_map.1 hlevel
  obtain ⟨e', he', heq⟩ := List.mem_map.1 hprice
  rw [← (Prod.mk.inj heq).2]
  exact hs e he e' he'

theorem priced_ofSettings (provider : Provider) (s : Settings) : (ofSettings provider s).Priced s :=
  ⟨rfl, nofun⟩

theorem Shift.priced (h : e.Shift m p c t d) (hs : s.Lowered) (he : e.Priced s) :
    t.1.Priced s := by
  refine ⟨h.templates.trans he.templates, fun {id sub} hsub => ?_⟩
  obtain ⟨id₀, old, hold, hcurrency⟩ | ⟨templateId, hpriced⟩ := h.currency hsub
  · rw [hcurrency]
    exact he.lowered hold
  · rw [he.templates] at hpriced
    exact lowered_of_templatesOf hs hpriced

end Emulator

/-- Every processor goes by the prices of some settings. -/
def Course.Priced (settings : Settings) (s : Course) : Prop :=
  ∀ {p e}, s.world.registry.find? p = some e → e.Priced settings

/-- No call changes what prices processors go by. -/
theorem Course.priced_after {settings : Settings} (hs : settings.Lowered) {s : Course}
    (h : s.Priced settings) (rules : Rules) (c : Call) : (s.after rules c).Priced settings :=
  forall_after (P := fun _ _ e => e.Priced settings) h rules c id fun _ hshift => hshift.priced hs

/-- In every run processors go by the prices of the settings. -/
theorem System.priced_play {settings : Settings} (hs : settings.Lowered)
    {providers : List Provider} {clock : Moment} {signer : Signer} {w : World}
    (hw : World.build settings providers clock signer = .ok w)
    (moves : List (Move (Rules × Luck))) :
    ((start w).play .inMemory moves).course.Priced settings := by
  refine forall_play_inMemory (P := Course.Priced settings) ?_ ?_ ?_ moves
  · intro s s' ha hs p e he
    exact hs (ha.world.registry ▸ he)
  · intro rules c s h
    exact Course.priced_after hs h rules c
  · intro p e he
    obtain ⟨q, rfl⟩ := World.find?_of_build hw he
    exact Emulator.priced_ofSettings q settings

end Patronage
