import Patronage.Proofs.Change
import Patronage.Proofs.Payment
/-!
# The type of a subscription

A level is of one type, and the catalog allows a change between levels of one type only.  A request
asks the catalog about the level that it has read off a subscription, which others may move before
the change is carried out; they ask the catalog too, so the type is still the same.  Main
statements:

* `Catalog.equivalence_allows` — on the levels on offer, being allowed is an equivalence;
* `Entitlement.keeps_changeLevel` — a change that was allowed keeps the type, however stale the
  reading;
* `System.type_of_created` — in every run a subscription keeps the type that it was made with.
-/

namespace Patronage

open Manager

namespace Catalog

variable (c : Catalog)

/-- The type of a level, if it is on offer. -/
def typeOf? (level : Int) : Option LevelType := (c.find? level).map (·.type)

theorem allows_iff_typeOf? (old new : Int) :
    c.allows old new ↔ ∃ t, c.typeOf? old = some t ∧ c.typeOf? new = some t := by
  rw [allows_iff]
  constructor
  · rintro ⟨a, b, ha, hb, htype⟩
    exact ⟨b.type, by simp [typeOf?, ha, htype], by simp [typeOf?, hb]⟩
  · rintro ⟨t, hold, hnew⟩
    obtain ⟨a, ha, rfl⟩ := Option.map_eq_some_iff.1 hold
    obtain ⟨b, hb, htype⟩ := Option.map_eq_some_iff.1 hnew
    exact ⟨a, b, ha, hb, htype.symm⟩

/-- On the levels on offer, being allowed is an equivalence. -/
theorem equivalence_allows :
    Equivalence fun a b : { n : Int // (c.find? n).isSome } => (c.allows a b : Prop) where
  refl a := by
    obtain ⟨l, hl⟩ := Option.isSome_iff_exists.1 a.property
    exact (c.allows_iff _ _).2 ⟨l, l, hl, hl, rfl⟩
  symm h := by
    obtain ⟨a, b, ha, hb, htype⟩ := (c.allows_iff _ _).1 h
    exact (c.allows_iff _ _).2 ⟨b, a, hb, ha, htype.symm⟩
  trans h h' := by
    obtain ⟨t, hold, hmid⟩ := (c.allows_iff_typeOf? _ _).1 h
    obtain ⟨t', hmid', hnew⟩ := (c.allows_iff_typeOf? _ _).1 h'
    obtain rfl := Option.some.inj (hmid.symm.trans hmid')
    exact (c.allows_iff_typeOf? _ _).2 ⟨t, hold, hnew⟩

end Catalog

/-- The collaborators in memory, the catalog deciding which changes of level are allowed. -/
def Service.entitled : Service (Rules × Luck) := fun i c s =>
  s.ask { i.1 with allows := s.world.catalog.rules.allows } i.2 c

/-! ### Calls -/

/-- What a call that makes a subscription files is what it was asked for. -/
theorem Emulator.Shift.level_of_drawn {m : Mint} {q : Provider} {e : Emulator} {c : Call}
    {s : Emulator × TokenSource} {d : Option String} (h : e.Shift m q c s d) {p : Provider}
    {customerId templateId : String} {level last : Int} {id : String}
    (hc : c = .createSubscription p customerId templateId level last) (hd : d = some id) :
    q = p ∧ ∃ sub, s.1.subscriptions.get? id = some sub ∧ sub.level = level := by
  cases h with
  | same => cases hd
  | opened =>
    cases hc
    obtain rfl := Option.some.inj hd
    exact ⟨rfl, _, (Assoc.get?_insert _ _ _ _).trans (if_pos rfl), rfl⟩
  | customer | moved | billed | closed => cases hc

namespace Course

variable {C : Catalog} {s : Course}

/-- What is filed under an identifier is a subscription at a level of some type. -/
def Ranks (C : Catalog) (s : Course) (p : Provider) (id : String) (t : LevelType) : Prop :=
  ∃ sub, s.world.registry.subscription? p id = some sub ∧ C.typeOf? sub.level = some t

theorem Ranks.unique {p : Provider} {id : String} {t t' : LevelType} (h : s.Ranks C p id t)
    (h' : s.Ranks C p id t') : t = t' := by
  obtain ⟨sub, hsub, ht⟩ := h
  obtain ⟨sub', hsub', ht'⟩ := h'
  obtain rfl := Option.some.inj (hsub.symm.trans hsub')
  exact Option.some.inj (ht.symm.trans ht')

/-- Subscriptions at levels on offer are at levels of the same type still. -/
structure Entitles (C : Catalog) (s s' : Course) : Prop where
  past : s.past <+: s'.past
  ranks : s'.drawn.Nodup → ∀ {p id t}, s.Ranks C p id t → s'.Ranks C p id t

theorem Entitles.alike {s s' : Course} (h : s.Alike s') : s.Entitles C s' where
  past := h.past ▸ List.prefix_rfl
  ranks _ := by
    rintro p id t ⟨sub, hsub, ht⟩
    exact ⟨sub, by rwa [h.world.registry], ht⟩

theorem Entitles.trans {s s' s'' : Course} (h : s.Entitles C s') (h' : s'.Entitles C s'') :
    s.Entitles C s'' where
  past := h.past.trans h'.past
  ranks hids {_ _ _} hr := h'.ranks hids (h.ranks (nodup_mono h'.past hids) hr)

/-- What a call must be sure of: that it moves a subscription within its type. -/
def Grants (C : Catalog) (s : Course) (c : Call) : Prop :=
  ∀ p read templateId level key t, c = .updateSubscription p read templateId level key →
    s.Ranks C p read.id t → C.typeOf? level = some t

theorem grants_of_not_changes {c : Call} (hc : ¬c.Changes) : s.Grants C c := by
  rintro p read templateId level key t rfl
  exact absurd trivial hc

/-- A call that is sure of what it moves keeps every type. -/
theorem entitles_after (h : s.Named) (rules : Rules) {c : Call}
    (hc : s.drawn.Nodup → s.Grants C c) : s.Entitles C (s.after rules c) := by
  refine ⟨List.prefix_append _ _, fun hids {p id t} hr => ?_⟩
  have hgrants := hc (nodup_of_after hids)
  rw [drawn_after] at hids
  obtain ⟨sub, hsub, ht⟩ := hr
  cases s.world.shift_answer rules c with
  | same registry => exact ⟨sub, by rwa [after, registry], ht⟩
  | «at» q e e' tokens find shift registry =>
    rw [Ranks, after, registry, Registry.subscription?_set]
    split
    · rename_i hq
      subst hq
      have hold := hsub
      rw [Registry.subscription?_of_find? find] at hold
      obtain ⟨hid, hmem⟩ := (h find).subscription hold
      have hd : s.world.drawn? c ≠ some id := fun hd =>
        (List.nodup_append.1 hids).2.2 id hmem id (by simp [hd]) rfl
      obtain ⟨sub', hsub', hshift⟩ := shift.before (h find) hd hold
      refine ⟨sub', hsub', ?_⟩
      cases hshift with
      | same | billed | closed => exact ht
      | moved read templateId level key currency hcall hread =>
        have hranks : s.Ranks C q read.id t := ⟨sub, by rwa [hread, hid], ht⟩
        exact hgrants _ _ _ _ _ _ hcall hranks
    · exact ⟨sub, hsub, ht⟩

/-- Everything is named, and what was made at a level on offer is at a level of the same type. -/
structure Rooted (C : Catalog) (s : Course) : Prop where
  named : s.Named
  catalog : s.world.catalog = C
  ranks : s.drawn.Nodup → ∀ {w p customerId templateId level last id t},
    (w, Call.createSubscription p customerId templateId level last) ∈ s.past →
    w.drawn? (.createSubscription p customerId templateId level last) = some id →
    C.typeOf? level = some t → s.Ranks C p id t

theorem Rooted.after (h : s.Rooted C) (rules : Rules) {c : Call}
    (hc : s.drawn.Nodup → s.Grants C c) : (s.after rules c).Rooted C := by
  refine ⟨named_after h.named rules c, (World.catalog_answer rules s.world c).trans h.catalog,
    fun hids {w p customerId templateId level last id t} hmem hdrawn ht => ?_⟩
  obtain hmem | hnew := List.mem_append.1 hmem
  · have hranks := h.ranks (nodup_of_after hids) hmem hdrawn ht
    exact (entitles_after h.named rules hc).ranks hids hranks
  · obtain ⟨rfl, rfl⟩ := Prod.mk.inj (List.mem_singleton.1 hnew)
    cases s.world.shift_answer rules (.createSubscription p customerId templateId level last) with
    | same _ hnone =>
      rw [hnone] at hdrawn
      cases hdrawn
    | «at» q e e' tokens find shift registry =>
      obtain ⟨rfl, sub, hsub, rfl⟩ := shift.level_of_drawn rfl hdrawn
      exact ⟨sub, by rw [Course.after, registry, Registry.subscription?_set, if_pos rfl, hsub], ht⟩

/-- A subscription as it was read at some time: it may have been moved since, but within its
type. -/
structure Reading (C : Catalog) (p : Provider) (id : String) (sub : Subscription) (s : Course) :
    Prop where
  id_eq : sub.id = id
  ranks : s.drawn.Nodup → ∀ {t}, C.typeOf? sub.level = some t → s.Ranks C p id t

theorem Reading.entitles {p : Provider} {id : String} {sub : Subscription} {s s' : Course}
    (h : s.Reading C p id sub) (hs : s.Entitles C s') : s'.Reading C p id sub where
  id_eq := h.id_eq
  ranks hids {_} ht := hs.ranks hids (h.ranks (nodup_mono hs.past hids) ht)

/-- Within the type that was read a subscription may be moved at any time. -/
theorem Reading.grants {p : Provider} {id : String} {sub : Subscription}
    (h : s.Reading C p id sub) {level : Int} (hallows : C.allows sub.level level)
    (templateId key : String) (hids : s.drawn.Nodup) :
    s.Grants C (.updateSubscription p sub templateId level key) := by
  rintro p' read templateId' level' key' t hcall hranks
  cases hcall
  obtain ⟨t', hold, hnew⟩ := (C.allows_iff_typeOf? _ _).1 hallows
  rw [h.id_eq] at hranks
  rw [hranks.unique (h.ranks hids hold)]
  exact hnew

end Course

/-! ### Programs -/

/-- Any number of requests that take turns, the catalog deciding which changes are allowed. -/
def Discipline.entitlement (C : Catalog) : Discipline (Rules × Luck) where
  service := .entitled
  inv := Course.Rooted C
  rely := Course.Entitles C
  keep := Course.Entitles C
  refl s := .alike (.refl s)
  trans := .trans
  alike := .alike
  inv_alike {s s'} ha h := by
    refine ⟨Course.Named.alike h.named ha, ha.world.catalog.trans h.catalog,
      fun hids {w p customerId templateId level last id t} hmem hdrawn ht => ?_⟩
    rw [ha.past] at hmem
    exact (Course.Entitles.alike ha).ranks hids (h.ranks (ha.drawn ▸ hids) hmem hdrawn ht)

namespace Entitlement

open Program

variable {C : Catalog}

/-- A call that is sure of what it moves keeps every type, and what it answers with lasts. -/
theorem keeps_ask {c : Call} {post : c.Answer → Course → Prop} {s : Course}
    (stable : ∀ {a s s'}, s.Entitles C s' → post a s → post a s')
    (h : ∀ s' rules, s.Entitles C s' → s'.Rooted C → rules.allows = C.rules.allows →
      (s'.drawn.Nodup → s'.Grants C c) ∧
        ∀ a, (s'.world.answer rules c).1 = .ok a → post a (s'.after rules c)) :
    (ask c).Keeps (.entitlement C) (onOk post) s := by
  rintro s' hs ⟨rules, luck⟩
  let allowing : Rules := { rules with allows := s'.world.catalog.rules.allows }
  have hallows : allowing.allows = C.rules.allows :=
    congrArg (fun C : Catalog => C.rules.allows) hs.inv.catalog
  obtain ⟨hgrants, hpost⟩ := h s' allowing hs.rely hs.inv hallows
  have hafter := hs.inv.after allowing hgrants
  have hentitles := Course.entitles_after hs.inv.named allowing hgrants
  cases luck with
  | fine => exact ⟨hentitles, hafter, fun s'' h' a ha => stable h'.rely (hpost a ha)⟩
  | before m => exact ⟨.alike (.refl s'), hs.inv, fun _ _ _ ha => nomatch ha⟩
  | after m => exact ⟨hentitles, hafter, fun _ _ _ ha => nomatch ha⟩

/-- Only changes of level move subscriptions. -/
theorem keeps_of_uses {α : Type} {p : Program α} (h : p.Uses fun c => ¬c.Changes) (s : Course) :
    p.Keeps (.entitlement C) (fun _ _ => True) s := by
  refine Discipline.keeps_of_uses (fun i c s hc hs => ?_) h s
  obtain hs' | hs' := s.ask_eq_or { i.1 with allows := s.world.catalog.rules.allows } i.2 c
  · exact hs'.symm ▸ ⟨.alike (.refl s), hs⟩
  · exact hs'.symm ▸ ⟨Course.entitles_after hs.named _ fun _ => Course.grants_of_not_changes hc,
      hs.after _ fun _ => Course.grants_of_not_changes hc⟩

/-- Any other call leaves the reading valid. -/
theorem keeps_reading {c : Call} (hc : ¬c.Changes) {post : c.Answer → Prop} {p : Provider}
    {id : String} {sub : Subscription} {s : Course} (hread : s.Reading C p id sub)
    (hpost : ∀ (w : World) rules, rules.allows = C.rules.allows →
      ∀ a, (w.answer rules c).1 = .ok a → post a) :
    (ask c).Keeps (.entitlement C) (onOk fun a s' => s'.Reading C p id sub ∧ post a) s := by
  refine keeps_ask (fun he hp => ⟨hp.1.entitles he, hp.2⟩) fun s' rules he hs' hrules =>
    ⟨fun _ => Course.grants_of_not_changes hc, fun a ha => ?_⟩
  have hafter : s'.Entitles C (s'.after rules c) :=
    Course.entitles_after hs'.named rules fun _ => Course.grants_of_not_changes hc
  exact ⟨(hread.entitles he).entitles hafter, hpost s'.world rules hrules a ha⟩

/-- A change of level is allowed for the level that was read, and the subscription is at a level of
the same type still when it is moved. -/
theorem keeps_changeLevel (c : Credentials) (p : Provider) (choice : LevelChoice) (id : String)
    {s : Course} (hs : s.Rooted C) :
    (changeLevel c p choice id).Keeps (.entitlement C) (fun _ _ => True) s := by
  have hread : (ask (.subscription p id)).Keeps (.entitlement C)
      (onOk fun sub s' => s'.Reading C p id sub) s := by
    refine keeps_ask (fun he hp => hp.entitles he) fun s' rules _ hs' _ =>
      ⟨fun _ => Course.grants_of_not_changes fun hc => hc, fun sub hsub => ?_⟩
    have hfound := World.subscription?_of_answer hsub
    exact ⟨Course.id_of_subscription? hs'.named hfound, fun _ _ ht => ⟨sub, hfound, ht⟩⟩
  unfold changeLevel
  refine hread.bind_any hs fun sub s hs hread => ?_
  have htier : (ask (.tier p sub)).Keeps (.entitlement C)
      (onOk fun t s' => s'.Reading C p id sub ∧ t.level = sub.level) s :=
    keeps_reading (c := .tier p sub) (fun h => h) hread fun _ _ _ _ ht => World.tier_level ht
  refine htier.bind_any hs fun current s hs ⟨hread, hlevel⟩ => ?_
  have hwanted : (ofExcept ((Tier.of choice.level choice.currency).mapError .invalid)).Keeps
      (.entitlement C) (onOk fun _ s' => s'.Reading C p id sub) s := fun _ h' _ _ =>
    hread.entitles h'.rely
  refine hwanted.bind_any hs fun wanted s hs hread => ?_
  split
  · exact fun _ _ => trivial
  have hallows : (ask (.allows current.level choice.level)).Keeps (.entitlement C)
      (onOk fun a s' => s'.Reading C p id sub ∧
        (a = true → C.allows sub.level choice.level)) s := by
    refine keeps_reading (c := .allows current.level choice.level) (fun h => h) hread
      fun w rules hrules a ha htrue => ?_
    change rules.allows current.level choice.level = .ok a at ha
    rw [hrules, hlevel] at ha
    exact (Except.ok.inj ha).trans htrue
  refine hallows.bind_any hs fun allowed s hs ⟨hread, hallowed⟩ => ?_
  split
  · rename_i htrue
    have hmove : (ask (.updateSubscription p sub choice.templateId choice.level choice.key)).Keeps
        (.entitlement C) (onOk fun _ _ => True) s :=
      keeps_ask (fun _ _ => trivial) fun s' rules he hs' _ =>
        ⟨(hread.entitles he).grants (hallowed htrue) _ _, fun _ _ => trivial⟩
    refine hmove.bind_any hs fun updated s hs _ => ?_
    have hnote : (persist (ask (.levelChanged c.user c.now choice.level updated))).Uses
        fun call => ¬call.Changes := uses_persist (uses_ask fun h => h)
    exact keeps_of_uses hnote s
  · exact fun _ _ => trivial

theorem keeps_updateLevel (c : Credentials) (record : Subscriber) (p : Provider)
    (choice : LevelChoice) {s : Course} (hs : s.Rooted C) :
    (updateLevel c record p choice).Keeps (.entitlement C) (fun _ _ => True) s := by
  unfold updateLevel operation
  refine Keeps.within ?_ hs (fun _ _ _ _ _ => trivial) _
  split
  · exact keeps_changeLevel c p choice _ hs
  · refine keeps_of_uses ((uses_subscribe c p choice record).mono fun call hcall hchanges => ?_) s
    cases call with
    | updateSubscription => exact hcall
    | _ => exact hchanges

/-- Whatever record a change of level works on, every request keeps the types. -/
theorem keeps_program (r : Request) {s : Course} (hs : s.Rooted C) :
    r.program.Keeps (.entitlement C) (fun _ _ => True) s := by
  cases r with
  | updateLevel c record p choice => exact keeps_updateLevel c record p choice hs
  | readAndUpdateLevel c p choice =>
    have hget : (getSubscriber c).Keeps (.entitlement C) (onOk fun _ _ => True) s :=
      (keeps_of_uses (uses_getSubscriber c id) s).mono fun _ _ _ _ _ _ => trivial
    exact hget.bind_any hs fun record s hs _ => keeps_updateLevel c record p choice hs
  | _ =>
    refine keeps_of_uses ((Request.uses_program _).mono fun call hcall hchanges => ?_) s
    cases call with
    | updateSubscription => exact hcall
    | _ => exact hchanges

end Entitlement

/-! ### Systems -/

theorem World.Fresh.rooted {w : World} (h : w.Fresh) : Course.Rooted w.catalog ⟨w, []⟩ :=
  ⟨h.named, rfl, fun _ {_ _ _ _ _ _ _ _} hmem => absurd hmem List.not_mem_nil⟩

/-- However requests take turns, whatever records, levels, templates and keys they come with and
whichever of their calls fail: a subscription that was made at a level on offer is at a level on
offer of the same type ever after.  On the levels on offer, being allowed is an equivalence. -/
theorem System.type_of_created {w : World} (hw : w.Fresh) (moves : List (Move (Rules × Luck))) :
    let s := ((start w).play .entitled moves).course
    (s.drawn.Nodup → ∀ w₀ p customerId templateId level last id l,
      (w₀, Call.createSubscription p customerId templateId level last) ∈ s.past →
      w₀.drawn? (.createSubscription p customerId templateId level last) = some id →
      w.catalog.find? level = some l →
        ∃ sub l', s.world.registry.subscription? p id = some sub ∧
          w.catalog.find? sub.level = some l' ∧ l'.type = l.type) ∧
    Equivalence fun a b : { n : Int // (w.catalog.find? n).isSome } =>
      (w.catalog.allows a b : Prop) := by
  intro s
  refine ⟨fun hids w₀ p customerId templateId level last id l hmem hdrawn hl => ?_,
    w.catalog.equivalence_allows⟩
  have hstart : (start w).Disciplined (.entitlement w.catalog) (fun _ _ _ => True) :=
    ⟨hw.rooted, fun _ ht => absurd ht List.not_mem_nil⟩
  have hplay : ((start w).play .entitled moves).Disciplined (.entitlement w.catalog)
      fun _ _ _ => True :=
    (hstart.play (fun hk => hk) fun r _ s' hs' => Entitlement.keeps_program r hs').2
  have hlevel : w.catalog.typeOf? level = some l.type := by simp [Catalog.typeOf?, hl]
  obtain ⟨sub, hsub, ht⟩ := hplay.inv.ranks hids hmem hdrawn hlevel
  obtain ⟨l', hl', htype⟩ := Option.map_eq_some_iff.1 ht
  exact ⟨sub, l', hsub, hl', htype⟩

namespace Sample

/-- What a call asks a processor to make a subscription with. -/
def opening? : Call → Option (Provider × String × String × Int × Int)
  | .createSubscription p customerId templateId level last =>
    some (p, customerId, templateId, level, last)
  | _ => none

/-- The subscriber moves to two other levels, both requests taking turns. -/
def moveInTurns : List (Move (Rules × Luck)) :=
  oneByOne asShipped (subscribe 500) ++
    [.arrive (toLevel 1000 "second"), .arrive (toLevel 2000 "third")] ++
    (List.replicate 32 [.advance 3 asShipped, .advance 4 asShipped]).flatten

end Sample

open Sample in
/-- A donation that was moved twice at a time is a donation still. -/
theorem System.type_of_created_of_moveInTurns :
    let s := ((start .shipped).play .entitled moveInTurns).course
    ∃ sub l l', World.shipped.catalog.find? 500 = some l ∧
      s.world.registry.subscription? .stripe "emulator_sub_0000000000000002_0" = some sub ∧
      sub.level ≠ 500 ∧ World.shipped.catalog.find? sub.level = some l' ∧ l'.type = l.type := by
  intro s
  have hids : s.drawn.Nodup := by decide +kernel
  have hmade : s.past.any fun e => opening? e.2 = some (.stripe, "emulator_cus_0000000000000001_0",
      "price_donation_500_usd", 500, 0) ∧
        e.1.drawn? e.2 = some "emulator_sub_0000000000000002_0" := by decide +kernel
  have hmoved : (s.world.registry.subscription? .stripe "emulator_sub_0000000000000002_0").any
      (·.level ≠ 500) := by decide +kernel
  obtain ⟨⟨w₀, c⟩, hmem, hcase⟩ := List.any_eq_true.1 hmade
  obtain ⟨hcall, hdrawn⟩ := of_decide_eq_true hcase
  obtain ⟨sub₀, hsub₀, hlevel⟩ := (Option.any_eq_true _ _).1 hmoved
  obtain ⟨l, hl⟩ : ∃ l, World.shipped.catalog.find? 500 = some l :=
    Option.isSome_iff_exists.1 (by decide +kernel)
  cases c with
  | createSubscription p customerId templateId level last =>
    obtain ⟨rfl, rfl, rfl, rfl, rfl⟩ := by simpa [opening?] using hcall
    dsimp only [s] at hids hmem hsub₀ ⊢
    obtain ⟨sub, l', hsub, hl', htype⟩ := (type_of_created World.fresh_shipped moveInTurns).1 hids
      _ _ _ _ _ _ _ _ hmem hdrawn hl
    obtain rfl := Option.some.inj (hsub.symm.trans hsub₀)
    exact ⟨sub, l, l', hl, hsub, of_decide_eq_true hlevel, hl', htype⟩
  | _ => cases hcall

end Patronage
