import Mathlib.Data.List.Forall2
import Mathlib.Data.List.Nodup
import Patronage.Proofs.Pricing
/-!
# The price list of a settings file

A settings file lists prices under level keys and currency codes as somebody has written them.
Level keys are read as numbers and codes are lowered, so entries of the file can meet: of levels
with one number the last one counts, and of codes that lower alike one.  Nothing reports the others,
and what becomes of them is said here.  Main statements:

* `Settings.reads_of_read` — what the levels of accepted settings are read from;
* `Settings.Reads.kept_eq` — which of the levels with one number counts, and what it lists;
* `Settings.retained_iff` — when the catalog answers with every price that the file lists.
-/

namespace Patronage

open Text Schema

/-! ### What a document lists -/

/-- The entries of the mapping under a name, if there is one. -/
def Value.entriesAt (v : Value) (name : String) : List (Value × Value) :=
  match v with
  | .map fields =>
    match Value.field? fields name with
    | some (.map es) => es
    | _ => []
  | _ => []

/-- A price as a document lists it, the currency code as it is written there. -/
structure ListedPrice where
  level : Int
  code : String
  price : Price
deriving DecidableEq

namespace ListedPrice

/-- The price that an entry lists under the key of a level. -/
def ofEntry (key : Value) (e : Value × Value) : Option ListedPrice :=
  match whole key, text e.1, Price.ofValue e.2 with
  | .ok n, .ok code, .ok price => some ⟨n, code, price⟩
  | _, _, _ => none

theorem whole_of_ofEntry {key : Value} {e : Value × Value} {x : ListedPrice}
    (h : ofEntry key e = some x) : whole key = .ok x.level := by
  unfold ofEntry at h
  split at h
  · rename_i n code price hn _ _
    obtain rfl := Option.some.inj h
    exact hn
  · cases h

/-- The prices that a level lists. -/
def ofLevel (e : Value × Value) : List ListedPrice :=
  (e.2.entriesAt "currencies").filterMap (ofEntry e.1)

end ListedPrice

namespace Value

/-- The prices that a document lists. -/
def listed (doc : Value) : List ListedPrice :=
  (doc.entriesAt "levels").flatMap ListedPrice.ofLevel

/-- The prices of the last level with a number. -/
def kept (doc : Value) (n : Int) : List ListedPrice :=
  ((doc.entriesAt "levels").reverse.find? fun e => (whole e.1).toOption = some n).elim []
    ListedPrice.ofLevel

/-- A price that is listed meets no other template: the last level with its number lists a code that
lowers to the same, and each such code with the same template. -/
def Retains (doc : Value) (x : ListedPrice) : Prop :=
  (∃ y ∈ doc.kept x.level, lowerString y.code = lowerString x.code) ∧
    ∀ y ∈ doc.kept x.level, lowerString y.code = lowerString x.code →
      y.price.templateId = x.price.templateId

instance (doc : Value) (x : ListedPrice) : Decidable (doc.Retains x) :=
  inferInstanceAs (Decidable (_ ∧ _))

end Value

/-! ### What is read of it -/

theorem exists_of_mem_of_forall₂ {α β : Type} {R : α → β → Prop} {as : List α} {bs : List β}
    (h : List.Forall₂ R as bs) : ∀ a ∈ as, ∃ b, R a b :=
  ((List.forall₂_and_left as bs).1 (h.imp fun _ b hab => ⟨⟨b, hab⟩, hab⟩)).1

namespace Schema

variable {α β : Type}

theorem forall₂_of_all_eq_ok {xs : List (Checked α)} {ys : List α} (h : Checked.all xs = .ok ys) :
    List.Forall₂ (fun x y => x = .ok y) xs ys := by
  induction xs generalizing ys with
  | nil =>
    obtain rfl := Except.ok.inj h
    exact .nil
  | cons x xs ih =>
    obtain ⟨⟨z, zs⟩, hboth, rfl⟩ := exists_of_map_eq_ok h
    obtain ⟨hx, hrest⟩ := Checked.both_eq_ok.1 hboth
    exact .cons hx (ih hrest)

/-- An entry reads as a key and a value. -/
def EntryReads (key : Value → Checked α) (value : Value → Checked β) (e : Value × Value)
    (y : α × β) : Prop :=
  key e.1 = .ok y.1 ∧ value e.2 = .ok y.2

/-- A mapping is read entry by entry. -/
theorem forall₂_of_eachEntry_eq_ok {key : Value → Checked α} {value : Value → Checked β}
    {es : List (Value × Value)} {ys : List (α × β)} (h : eachEntry key value es = .ok ys) :
    List.Forall₂ (EntryReads key value) es ys := by
  have hall := List.forall₂_map_left_iff.1 (forall₂_of_all_eq_ok h)
  refine hall.imp fun e y hey => ?_
  obtain ⟨hkey, hvalue⟩ := Checked.both_eq_ok.1 (mapError_eq_ok hey)
  exact ⟨mapError_eq_ok hkey, hvalue⟩

theorem entries_eq_ok {f : Flaw} {v : Value} {es : List (Value × Value)}
    (h : entries f v = .ok es) : v = .map es := by
  cases v with
  | map es' => exact congrArg Value.map (Except.ok.inj h)
  | _ => cases h

/-- A field that is a mapping where it is there is read from the entries under its name. -/
theorem optional_eq_ok_of_entries {fields : List (Value × Value)} {name : String} {fallback a : α}
    {check : Value → Checked α} {P : List (Value × Value) → α → Prop}
    (h : optional fields name fallback check = .ok a) (hfallback : P [] fallback)
    (hcheck : ∀ {v a}, check v = .ok a → ∃ es, v = .map es ∧ P es a) :
    P ((Value.map fields).entriesAt name) a := by
  unfold optional at h
  unfold Value.entriesAt
  split at h
  · rename_i v hv
    obtain ⟨es, rfl, hP⟩ := hcheck (mapError_eq_ok h)
    simpa [hv] using hP
  · rename_i hnone
    obtain rfl := Except.ok.inj h
    simpa [hnone] using hfallback

end Schema

theorem Level.prices_of_ofValue {v : Value} {l : Level} (h : ofValue v = .ok l) :
    ∃ ys, List.Forall₂ (Schema.EntryReads text Price.ofValue) (v.entriesAt "currencies") ys ∧
      l.prices = lowerCodes (.ofList ys) := by
  obtain ⟨fields, hv, h⟩ := exists_of_bind_eq_ok h
  obtain rfl := Schema.entries_eq_ok hv
  obtain ⟨⟨type, badge, prices⟩, hparts, rfl⟩ := exists_of_map_eq_ok h
  obtain ⟨-, hparts⟩ := Checked.both_eq_ok.1 hparts
  obtain ⟨-, hprices⟩ := Checked.both_eq_ok.1 hparts
  refine Schema.optional_eq_ok_of_entries (P := fun es prices => ∃ ys,
    List.Forall₂ (Schema.EntryReads text Price.ofValue) es ys ∧ prices = lowerCodes (.ofList ys))
    hprices ⟨[], .nil, rfl⟩ fun {w prices} hw => ?_
  obtain ⟨es, hes, hw⟩ := exists_of_bind_eq_ok hw
  obtain ⟨ys, hys, hw⟩ := exists_of_bind_eq_ok hw
  exact ⟨es, Schema.entries_eq_ok hes, ys, Schema.forall₂_of_eachEntry_eq_ok hys,
    (Except.ok.inj hw).symm⟩

namespace Settings

/-- The levels of settings are those that a document lists, read one after the other. -/
def Reads (s : Settings) (doc : Value) : Prop :=
  ∃ ys, List.Forall₂ (Schema.EntryReads whole Level.ofValue) (doc.entriesAt "levels") ys ∧
    s.levels = .ofList ys

theorem reads_of_ofFields {fields : Fields} {s : Settings} (h : ofFields fields = .ok s) :
    s.Reads (.map fields) := by
  obtain ⟨⟨durations, levels, emulator⟩, hparts, rfl⟩ := exists_of_map_eq_ok h
  obtain ⟨-, hparts⟩ := Checked.both_eq_ok.1 hparts
  obtain ⟨hlevels, -⟩ := Checked.both_eq_ok.1 hparts
  refine Schema.optional_eq_ok_of_entries (P := fun es (levels : Levels) => ∃ ys,
    List.Forall₂ (Schema.EntryReads whole Level.ofValue) es ys ∧ levels.val = .ofList ys)
    hlevels ⟨[], .nil, rfl⟩ fun {v levels} hv => ?_
  obtain ⟨es, hes, hv⟩ := exists_of_bind_eq_ok hv
  obtain ⟨ys, hys, hv⟩ := exists_of_bind_eq_ok hv
  dsimp only at hv
  split at hv
  · obtain rfl := Except.ok.inj hv
    exact ⟨es, Schema.entries_eq_ok hes, ys, Schema.forall₂_of_eachEntry_eq_ok hys, rfl⟩
  · cases hv

theorem reads_of_read {path : String} {source : Source} {doc : Value} {s : Settings}
    (hdoc : source.read path = .ok doc) (h : read path source = .ok s) : s.Reads doc := by
  obtain ⟨v, hv, h⟩ := exists_of_bind_eq_ok h
  obtain rfl := Except.ok.inj (hdoc.symm.trans hv)
  unfold ofDocument at h
  split at h
  · cases h
  · split at h
    · split at h
      · exact reads_of_ofFields (mapError_eq_ok h)
      · cases h
    · cases h

end Settings

/-! ### Which prices count -/

theorem Assoc.isSome_get?_ofList {κ α : Type} [DecidableEq κ] {es : List (κ × α)} {k : κ} :
    ((ofList es).get? k).isSome ↔ ∃ v, (k, v) ∈ es := by
  rw [get?_ofList]
  refine (mem_keys_iff ⟨es.reverse⟩ k).symm.trans ?_
  simp [keys]

/-- What is found by a key in a list of pairs is found by what reads as that key in the list that
they were read from. -/
theorem Schema.find?_of_forall₂ {κ α : Type} [DecidableEq κ] {key : Value → Checked κ}
    {value : Value → Checked α} {es : List (Value × Value)} {ys : List (κ × α)}
    (h : List.Forall₂ (EntryReads key value) es ys) (k : κ) :
    Option.Rel (fun e v => EntryReads key value e (k, v))
      (es.find? fun e => (key e.1).toOption = some k) (Assoc.find k ys) := by
  induction h with
  | nil => exact .none
  | @cons e y es ys hey _ ih =>
    have hkey : (key e.1).toOption = some y.1 := by rw [hey.1]; rfl
    by_cases hk : y.1 = k
    · have hfind : Assoc.find k (y :: ys) = some y.2 := if_pos hk
      rw [hfind, List.find?_cons_of_pos (by simp [hkey, hk])]
      exact .some (hk ▸ hey)
    · have hfind : Assoc.find k (y :: ys) = Assoc.find k ys := if_neg hk
      rw [hfind, List.find?_cons_of_neg (by simp [hkey, hk])]
      exact ih

namespace ListedPrice

/-- The prices of a level as they were read, the number of the level with each. -/
def tabulate (n : Int) (ys : List (String × Price)) : List ListedPrice :=
  ys.map fun y => ⟨n, y.1, y.2⟩

theorem ofEntry_eq {key : Value} {n : Int} (hn : whole key = .ok n) {e : Value × Value}
    {y : String × Price} (h : Schema.EntryReads text Price.ofValue e y) :
    ofEntry key e = some ⟨n, y.1, y.2⟩ := by
  simp only [ofEntry, hn, h.1, h.2]

/-- A level that is read lists the prices that it has before codes that lower alike become one. -/
theorem ofLevel_eq {e : Value × Value} {n : Int} {l : Level}
    (h : Schema.EntryReads whole Level.ofValue e (n, l)) :
    ∃ ys, ofLevel e = tabulate n ys ∧ l.prices = Level.lowerCodes (.ofList ys) := by
  obtain ⟨ys, hys, hprices⟩ := Level.prices_of_ofValue h.2
  refine ⟨ys, ?_, hprices⟩
  clear hprices
  unfold ofLevel
  generalize e.2.entriesAt "currencies" = es at hys
  induction hys with
  | nil => rfl
  | cons hey _ ih => rw [List.filterMap_cons, ofEntry_eq h.1 hey, ih]; rfl

end ListedPrice

namespace Level

variable {ys : List (String × Price)}

/-- A price that is found stands under a code that lowers to the one that it was found by. -/
theorem exists_of_get?_lowerCodes {code : String} {price : Price}
    (h : (lowerCodes (.ofList ys)).get? code = some price) :
    ∃ written, (written, price) ∈ ys ∧ lowerString written = code := by
  obtain ⟨y, hy, heq⟩ := List.mem_map.1 (Assoc.mem_of_mem_entries_ofList (Assoc.mem_of_find h))
  obtain ⟨hcode, hprice⟩ := Prod.mk.inj heq
  exact ⟨y.1, hprice ▸ Assoc.mem_of_mem_entries_ofList hy, hcode⟩

/-- Some price is found by the lower case of every code. -/
theorem isSome_get?_lowerCodes {y : String × Price} (h : y ∈ ys) :
    ((lowerCodes (.ofList ys)).get? (lowerString y.1)).isSome := by
  obtain ⟨price, hprice⟩ := Option.isSome_iff_exists.1
    (Assoc.isSome_get?_ofList (k := y.1).2 ⟨y.2, h⟩)
  refine Assoc.isSome_get?_ofList.2 ⟨price, List.mem_map.2 ⟨(y.1, price), ?_, rfl⟩⟩
  exact Assoc.mem_of_find hprice

end Level

namespace Settings

variable {s : Settings} {doc : Value}

/-- The level with a number is the last one that the document lists with it. -/
theorem Reads.kept_eq (h : s.Reads doc) (n : Int) :
    (s.levels.get? n = none ∧ doc.kept n = []) ∨
      ∃ l ys, s.levels.get? n = some l ∧ doc.kept n = ListedPrice.tabulate n ys ∧
        l.prices = Level.lowerCodes (.ofList ys) := by
  obtain ⟨levels, hlevels, hs⟩ := h
  have hfind := Schema.find?_of_forall₂ (List.forall₂_reverse_iff.2 hlevels) n
  rw [← Assoc.get?_ofList, ← hs] at hfind
  unfold Value.kept
  generalize (doc.entriesAt "levels").reverse.find? _ = entry, s.levels.get? n = level at hfind ⊢
  cases hfind with
  | none => exact .inl ⟨rfl, rfl⟩
  | some hread =>
    obtain ⟨ys, hlevel, hprices⟩ := ListedPrice.ofLevel_eq hread
    exact .inr ⟨_, ys, rfl, hlevel, hprices⟩

/-- A level has a price in a currency exactly if one is listed that counts. -/
theorem Reads.offers (h : s.Reads doc) {n : Int} {code : String} {price : Price}
    (hoffers : s.Offers n code price) :
    ∃ y ∈ doc.kept n, lowerString y.code = code ∧ y.price = price := by
  obtain ⟨l, hl, hprice⟩ := hoffers
  obtain ⟨hnone, -⟩ | ⟨l', ys, hl', hkept, hprices⟩ := h.kept_eq n
  · cases hl.symm.trans hnone
  · obtain rfl := Option.some.inj (hl.symm.trans hl')
    rw [hprices] at hprice
    obtain ⟨written, hwritten, hlower⟩ := Level.exists_of_get?_lowerCodes hprice
    exact ⟨⟨n, written, price⟩, hkept ▸ List.mem_map.2 ⟨_, hwritten, rfl⟩, hlower, rfl⟩

theorem Reads.exists_offers (h : s.Reads doc) {n : Int} {y : ListedPrice} (hy : y ∈ doc.kept n) :
    ∃ price, s.Offers n (lowerString y.code) price := by
  obtain ⟨-, hnone⟩ | ⟨l, ys, hl, hkept, hprices⟩ := h.kept_eq n
  · rw [hnone] at hy
    cases hy
  · rw [hkept] at hy
    obtain ⟨entry, hentry, rfl⟩ := List.mem_map.1 hy
    obtain ⟨price, hprice⟩ := Option.isSome_iff_exists.1 (Level.isSome_get?_lowerCodes hentry)
    exact ⟨price, l, hl, hprices ▸ hprice⟩

/-- What counts is listed. -/
theorem Reads.listed_of_kept (h : s.Reads doc) {n : Int} {y : ListedPrice} (hy : y ∈ doc.kept n) :
    y ∈ doc.listed ∧ y.level = n := by
  have hlevel : y.level = n := by
    obtain ⟨-, hnone⟩ | ⟨l, ys, -, hkept, -⟩ := h.kept_eq n
    · rw [hnone] at hy
      cases hy
    · rw [hkept] at hy
      obtain ⟨entry, -, rfl⟩ := List.mem_map.1 hy
      rfl
  refine ⟨?_, hlevel⟩
  unfold Value.kept at hy
  cases hfind : (doc.entriesAt "levels").reverse.find? fun e => (whole e.1).toOption = some n with
  | none =>
    rw [hfind] at hy
    cases hy
  | some e =>
    rw [hfind] at hy
    exact List.mem_flatMap.2 ⟨e, List.mem_reverse.1 (List.mem_of_find?_eq_some hfind), hy⟩

end Settings

/-- The catalog answers with a template exactly if it is that of a price in the currency. -/
theorem Catalog.template_eq_ok_iff {s : Settings} {n : Int} {currency templateId : String} :
    (⟨s⟩ : Catalog).template n currency = .ok templateId ↔
      ∃ price, s.Offers n (lowerString currency) price ∧ price.templateId = templateId := by
  constructor
  · intro h
    obtain ⟨l, hget, h⟩ := exists_of_bind_eq_ok h
    have hl : s.levels.get? n = some l := by
      change ((s.levels.get? n).elim _ _ : Except Fault Level) = .ok l at hget
      cases hfind : s.levels.get? n with
      | none =>
        rw [hfind] at hget
        cases hget
      | some l' =>
        rw [hfind] at hget
        exact congrArg some (Except.ok.inj hget)
    split at h
    · rename_i price hprice
      exact ⟨price, ⟨l, hl, hprice⟩, Except.ok.inj h⟩
    · cases h
  · rintro ⟨price, hoffers, rfl⟩
    exact template_of_price hoffers rfl

/-- The catalog answers with the template of a price that is listed, whether it is asked for the
currency as it is written or for its lower case. -/
def Catalog.Shows (c : Catalog) (x : ListedPrice) : Prop :=
  c.template x.level x.code = .ok x.price.templateId ∧
    c.template x.level (lowerString x.code) = .ok x.price.templateId

namespace Settings

variable {s : Settings} {doc : Value}

/-- Whatever stands under the levels of a document that settings are read from is a price. -/
theorem Reads.exists_ofEntry (h : s.Reads doc) {e : Value × Value}
    (he : e ∈ doc.entriesAt "levels") {q : Value × Value} (hq : q ∈ e.2.entriesAt "currencies") :
    ∃ x ∈ doc.listed, ListedPrice.ofEntry e.1 q = some x := by
  obtain ⟨levels, hlevels, -⟩ := h
  obtain ⟨⟨n, l⟩, hn, hl⟩ := exists_of_mem_of_forall₂ hlevels e he
  obtain ⟨prices, hprices, -⟩ := Level.prices_of_ofValue hl
  obtain ⟨y, hy⟩ := exists_of_mem_of_forall₂ hprices q hq
  have hentry := ListedPrice.ofEntry_eq hn hy
  exact ⟨_, List.mem_flatMap.2 ⟨e, he, List.mem_filterMap.2 ⟨q, hq, hentry⟩⟩, hentry⟩

/-- A price that meets no other template is answered with. -/
theorem Reads.shows_of_retains (h : s.Reads doc) {x : ListedPrice} (hx : doc.Retains x) :
    (⟨s⟩ : Catalog).Shows x := by
  obtain ⟨⟨y, hy, hcode⟩, hagree⟩ := hx
  obtain ⟨price, hoffers⟩ := h.exists_offers hy
  obtain ⟨z, hz, hzcode, rfl⟩ := h.offers hoffers
  have htemplate := hagree z hz (hzcode.trans hcode)
  rw [hcode] at hoffers
  refine ⟨Catalog.template_eq_ok_iff.2 ⟨_, hoffers, htemplate⟩,
    Catalog.template_eq_ok_iff.2 ⟨_, ?_, htemplate⟩⟩
  rw [lowerString_lowerString]
  exact hoffers

/-- If every price is answered with, none meets another template: the catalog has one answer. -/
theorem Reads.retains_of_shows (h : s.Reads doc)
    (hshows : ∀ x ∈ doc.listed, (⟨s⟩ : Catalog).Shows x) {x : ListedPrice}
    (hx : x ∈ doc.listed) : doc.Retains x := by
  obtain ⟨price, hoffers, hprice⟩ := Catalog.template_eq_ok_iff.1 (hshows x hx).1
  refine ⟨?_, fun y hy hcode => ?_⟩
  · obtain ⟨y, hy, hcode, -⟩ := h.offers hoffers
    exact ⟨y, hy, hcode⟩
  · obtain ⟨hlisted, hlevel⟩ := h.listed_of_kept hy
    have hy' := (hshows y hlisted).2
    rw [hlevel, hcode, (hshows x hx).2] at hy'
    exact (Except.ok.inj hy').symm

end Settings

/-- No two levels of a document have one number, and no two codes of a level lower alike. -/
structure Value.Apart (doc : Value) : Prop where
  levels : ((doc.entriesAt "levels").map fun e => (whole e.1).toOption).Nodup
  codes : ∀ n, ((doc.kept n).map fun x => lowerString x.code).Nodup

/-- In such a document no price meets another one. -/
theorem Value.Apart.retains {doc : Value} (h : doc.Apart) {x : ListedPrice} (hx : x ∈ doc.listed) :
    doc.Retains x := by
  obtain ⟨e, he, hmem⟩ := List.mem_flatMap.1 hx
  have hlevel : (whole e.1).toOption = some x.level := by
    obtain ⟨q, -, hq⟩ := List.mem_filterMap.1 hmem
    rw [ListedPrice.whole_of_ofEntry hq]
    rfl
  have hkept : x ∈ doc.kept x.level := by
    unfold kept
    cases hfind : (doc.entriesAt "levels").reverse.find? fun e =>
        (whole e.1).toOption = some x.level with
    | none => exact absurd hlevel (by simpa using List.find?_eq_none.1 hfind e (by simpa using he))
    | some e' =>
      -- it is the only level with its number
      have hsame : (whole e'.1).toOption = some x.level := by simpa using List.find?_some hfind
      have hmem' : e' ∈ doc.entriesAt "levels" :=
        List.mem_reverse.1 (List.mem_of_find?_eq_some hfind)
      obtain rfl := List.inj_on_of_nodup_map h.levels hmem' he (hsame.trans hlevel.symm)
      exact hmem
  refine ⟨⟨x, hkept, rfl⟩, fun y hy hcode => ?_⟩
  rw [List.inj_on_of_nodup_map (h.codes x.level) hy hkept hcode]

/-- Whatever stands under the levels of an accepted settings file is a price; and the catalog
answers with every price that is listed exactly if none meets another template: the last level with
its number lists the currency, and always with the same template.  So it is if no two levels have
one number and no two codes of a level lower alike. -/
theorem Settings.retained_iff {path : String} {source : Source} {doc : Value} {s : Settings}
    (hdoc : source.read path = .ok doc) (h : read path source = .ok s) :
    (∀ e ∈ doc.entriesAt "levels", ∀ q ∈ e.2.entriesAt "currencies",
      ∃ x ∈ doc.listed, ListedPrice.ofEntry e.1 q = some x) ∧
    ((∀ x ∈ doc.listed, (⟨s⟩ : Catalog).Shows x) ↔ ∀ x ∈ doc.listed, doc.Retains x) ∧
    (doc.Apart → ∀ x ∈ doc.listed, (⟨s⟩ : Catalog).Shows x) := by
  have hreads := reads_of_read hdoc h
  refine ⟨fun e he q hq => hreads.exists_ofEntry he hq, ⟨?_, ?_⟩, ?_⟩
  · exact fun hshows x hx => hreads.retains_of_shows hshows hx
  · exact fun hretains x hx => hreads.shows_of_retains (hretains x hx)
  · exact fun hapart x hx => hreads.shows_of_retains (hapart.retains hx)

namespace Sample

/-- The fields of a level, with an amount and a template under each currency code. -/
def levelFields (badge : String) (prices : List (String × Int × String)) : Value :=
  .map [(.text "badge", .text badge),
    (.text "currencies", .map (prices.map fun p =>
      (.text p.1, .map [(.text "amount", .int p.2.1), (.text "template_id", .text p.2.2)])))]

/-- Two levels, the number of one written as text, with codes in either case. -/
def twoLevels : Source := .document <| .map [(.text "levels", .map
  [(.int 500, levelFields "B1" [("USD", 500, "t1"), ("eur", 450, "t2")]),
    (.text "1000", levelFields "B2" [("usd", 1000, "t3")])])]

/-- A level that is priced in dollars twice, the code being written in two ways. -/
def dollarsTwice : Source := .document <| .map [(.text "levels", .map
  [(.int 500, levelFields "B1" [("usd", 500, "t1"), ("USD", 400, "t2")])])]

theorem exists_of_accepted (source : Source)
    (h : (Settings.read Settings.usualPath source).toOption.isSome) :
    ∃ doc s, source.read Settings.usualPath = .ok doc ∧
      Settings.read Settings.usualPath source = .ok s := by
  obtain ⟨s, hs⟩ := Option.isSome_iff_exists.1 h
  have hread := eq_ok_of_toOption hs
  obtain ⟨doc, hdoc, -⟩ := exists_of_bind_eq_ok hread
  exact ⟨doc, s, hdoc, hread⟩

end Sample

open Sample in
/-- Every price of the two levels is answered with. -/
theorem Settings.retained_iff_of_twoLevels :
    ∃ doc s, twoLevels.read usualPath = .ok doc ∧ read usualPath twoLevels = .ok s ∧
      doc.listed.map (fun x => (x.level, x.code, x.price.templateId)) =
        [(500, "USD", "t1"), (500, "eur", "t2"), (1000, "usd", "t3")] ∧
      ∀ x ∈ doc.listed, (⟨s⟩ : Catalog).Shows x := by
  obtain ⟨doc, s, hdoc, hread⟩ := exists_of_accepted twoLevels (by decide +kernel)
  have hlisted : (twoLevels.read usualPath).toOption.map (fun doc =>
      (doc.listed.map (fun x => (x.level, x.code, x.price.templateId)),
        decide (∀ x ∈ doc.listed, doc.Retains x))) =
      some ([(500, "USD", "t1"), (500, "eur", "t2"), (1000, "usd", "t3")], true) := by
    decide +kernel
  rw [hdoc] at hlisted
  obtain ⟨hprices, hretains⟩ := Prod.mk.inj (Option.some.inj hlisted)
  exact ⟨doc, s, hdoc, hread, hprices, (retained_iff hdoc hread).2.1.2 (of_decide_eq_true hretains)⟩

open Sample in
/-- Of two prices in dollars the catalog does not answer with the first. -/
theorem Settings.not_retained_of_dollarsTwice :
    ¬∀ (path : String) (source : Source) (doc : Value) (s : Settings),
      source.read path = .ok doc → read path source = .ok s →
        ∀ x ∈ doc.listed, (⟨s⟩ : Catalog).Shows x := by
  intro h
  obtain ⟨doc, s, hdoc, hread⟩ := exists_of_accepted dollarsTwice (by decide +kernel)
  have hlisted : (dollarsTwice.read usualPath).toOption.map (fun doc =>
      decide (∃ x ∈ doc.listed, x.level = 500 ∧ x.code = "usd" ∧ x.price.templateId = "t1")) =
      some true := by
    decide +kernel
  have htemplate : (read usualPath dollarsTwice).toOption.map (fun s =>
      ((⟨s⟩ : Catalog).template 500 "usd").toOption) = some (some "t2") := by
    decide +kernel
  rw [hdoc] at hlisted
  rw [hread] at htemplate
  obtain ⟨x, hx, hlevel, hcode, hprice⟩ := of_decide_eq_true (Option.some.inj hlisted)
  have hshown := (h usualPath dollarsTwice doc s hdoc hread x hx).1
  rw [hlevel, hcode, hprice] at hshown
  have hother : ((⟨s⟩ : Catalog).template 500 "usd").toOption = some "t2" :=
    Option.some.inj htemplate
  rw [hshown] at hother
  exact absurd (Option.some.inj hother) (by decide)

end Patronage
