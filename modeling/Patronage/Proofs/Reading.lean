import Patronage.Yaml.Document
/-!
# Where the failures of a document come from

A text that is no document fails as such.  Any other failure comes from its tokens, from collections
nested too deeply, or from a scalar whose characters denote no value under the tag of a node; the
same holds wherever aliases and merge keys take a part of the document.  Main statements:

* `Built.sound_build` — the values that fail in a document have a scalar that explains it;
* `Parse.honest_onlyDocument` — the structure of a document adds only nesting that is too deep;
* `failure_of_load` — where a failure of a text comes from.
-/

namespace Patronage.Yaml

open Text

/-! ### Scalars in a document -/

/-- A scalar with some content is part of a node. -/
inductive Node.Writes (c : Content) : Node → Prop
  | scalar (tag : Tag) : Writes c (.scalar tag c)
  | item {tag : Tag} {items : List Node} {n : Node} (hn : n ∈ items) (h : Writes c n) :
      Writes c (.sequence tag items)
  | key {tag : Tag} {entries : List (Node × Node)} {k v : Node} (he : (k, v) ∈ entries)
      (h : Writes c k) : Writes c (.mapping tag entries)
  | value {tag : Tag} {entries : List (Node × Node)} {k v : Node} (he : (k, v) ∈ entries)
      (h : Writes c v) : Writes c (.mapping tag entries)
  | named (name : List Char) {n : Node} (h : Writes c n) : Writes c (.named name n)

/-- A failure is that of a text that is no document, or some of the contents fail in this way under
some tag. -/
def Explained (P : Content → Prop) (f : Failure) : Prop :=
  f = .malformed ∨ ∃ tag c, P c ∧ Built.scalarOf tag c.chars = .error f

/-- The failure of a value, if it fails, is explained. -/
def Timed.Explained {α : Type} (P : Content → Prop) (x : Timed α) : Prop :=
  ∀ e, x = .error e → Yaml.Explained P e.failure

section

variable {α β : Type} {P : Content → Prop} {x : Timed α} {y : Timed β}

namespace Timed

theorem explained_ok (a : α) : Explained P (.ok a : Timed α) := fun _ h => nomatch h

theorem explained_error {e : Late} (h : Yaml.Explained P e.failure) :
    Explained P (.error e : Timed α) := by
  rintro _ ⟨⟩
  exact h

theorem explained_malformed : Explained P (now .malformed : Timed α) :=
  explained_error (.inl rfl)

theorem Explained.map (h : Explained P x) (f : α → β) : Explained P (x.map f) := by
  cases x with
  | ok a => exact explained_ok (f a)
  | error e => exact explained_error (h e rfl)

theorem Explained.later (h : Explained P x) : Explained P x.later := by
  cases x with
  | ok a => exact explained_ok a
  | error e => exact explained_error (h e rfl)

theorem Explained.both (hx : Explained P x) (hy : Explained P y) : Explained P (both x y) := by
  cases x with
  | ok a =>
    cases y with
    | ok b => exact explained_ok (a, b)
    | error e => exact explained_error (hy e rfl)
  | error e =>
    cases y with
    | ok b => exact explained_error (hx e rfl)
    | error f =>
      refine explained_error ?_
      split
      · exact hy f rfl
      · exact hx e rfl

theorem explained_all {xs : List (Timed α)} (h : ∀ x ∈ xs, Explained P x) :
    Explained P (all xs) := by
  induction xs with
  | nil => exact explained_ok []
  | cons x xs ih =>
    obtain ⟨hx, hxs⟩ := List.forall_mem_cons.1 h
    exact (hx.both (ih hxs)).map _

end Timed

/-! ### Values of nodes -/

namespace Built

/-- The keys and the values of entries. -/
def nodesOf (entries : List (Built × Built)) : List Built := entries.flatMap fun e => [e.1, e.2]

/-- Wherever a node is taken, its failures are explained and its text is some of the contents. -/
inductive Sound (P : Content → Prop) : Built → Prop
  | scalar {tag : Tag} {c : Content} {v : Timed Value} (hc : P c) (hv : v.Explained P) :
      Sound P (.scalar tag c v)
  | sequence {tag : Tag} {items : List Built} {v : Timed Value} (hitems : ∀ i ∈ items, Sound P i)
      (hv : v.Explained P) : Sound P (.sequence tag items v)
  | mapping {tag : Tag} {entries : List (Built × Built)}
      {merged : Except Failure (List (Built × Built))} {text : Option Content} {v : Timed Value}
      (hentries : ∀ b ∈ nodesOf entries, Sound P b)
      (hmerged : ∀ es, merged = .ok es → ∀ b ∈ nodesOf es, Sound P b)
      (hfail : ∀ f, merged = .error f → f = .malformed) (htext : ∀ c ∈ text, P c)
      (hv : v.Explained P) : Sound P (.mapping tag entries merged text v)

/-- Entries of sound nodes, or the failure of a text that is no document. -/
structure Merges (P : Content → Prop) (r : Except Failure (List (Built × Built))) : Prop where
  nodes : ∀ es, r = .ok es → ∀ b ∈ nodesOf es, Sound P b
  failure : ∀ f, r = .error f → f = .malformed

variable {b : Built} {tag : Tag} {c : Content} {entries : List (Built × Built)}

theorem forall_mem_nodesOf_iff :
    (∀ b ∈ nodesOf entries, Sound P b) ↔ ∀ e ∈ entries, Sound P e.1 ∧ Sound P e.2 := by
  constructor
  · intro h e he
    exact ⟨h _ (List.mem_flatMap.2 ⟨e, he, List.mem_cons_self⟩),
      h _ (List.mem_flatMap.2 ⟨e, he, List.mem_cons_of_mem _ (List.mem_singleton_self _)⟩)⟩
  · intro h b hb
    obtain ⟨e, he, hb⟩ := List.mem_flatMap.1 hb
    obtain rfl | hb := List.mem_cons.1 hb
    · exact (h e he).1
    · obtain rfl := List.mem_singleton.1 hb
      exact (h e he).2

theorem Sound.value (h : Sound P b) : b.value.Explained P := by
  cases h with
  | scalar _ hv => exact hv
  | sequence _ hv => exact hv
  | mapping _ _ _ _ hv => exact hv

theorem Sound.text (h : Sound P b) (hc : c ∈ b.text) : P c := by
  cases h with
  | scalar hP _ =>
    obtain rfl := Option.some.inj hc
    exact hP
  | sequence => cases hc
  | mapping _ _ _ htext _ => exact htext c hc

theorem explained_scalarValue {text : Option Content} (h : ∀ c ∈ text, P c) :
    (scalarValue tag text).Explained P := by
  unfold scalarValue
  split
  · exact Timed.explained_malformed
  · rename_i c
    split
    · exact Timed.explained_ok _
    split
    · exact Timed.explained_malformed
    · cases hvalue : scalarOf tag c.chars with
      | ok v => exact Timed.explained_ok v
      | error f => exact Timed.explained_error (.inr ⟨tag, c, h c rfl, hvalue⟩)

theorem explained_misfit {text : Option Content} (h : ∀ c ∈ text, P c) :
    (misfit tag text).Explained P := by
  unfold misfit
  split
  · exact Timed.explained_error (.inl rfl)
  · exact explained_scalarValue h

theorem sound_ofScalar (h : P c) : (ofScalar tag c).Sound P := by
  have htext : ∀ d ∈ some c, P d := by
    rintro d ⟨⟩
    exact h
  exact .scalar h (explained_misfit htext)

theorem explained_pairValue (h : Sound P b) : b.pairValue.Explained P := by
  unfold pairValue
  split
  · rename_i k v _ _ _
    cases h with
    | mapping hentries =>
      obtain ⟨hk, hv⟩ := forall_mem_nodesOf_iff.1 hentries (k, v) List.mem_cons_self
      exact (hk.value.both hv.value).map _
  · exact Timed.explained_malformed

theorem sound_ofItems {items : List Built} (h : ∀ i ∈ items, Sound P i) :
    (ofItems tag items).Sound P := by
  refine .sequence h ?_
  split
  · refine (Timed.explained_all fun x hx => ?_).map _
    obtain ⟨i, hi, rfl⟩ := List.mem_map.1 hx
    exact (h i hi).value.later
  split
  · refine (Timed.explained_all fun x hx => ?_).map _
    obtain ⟨i, hi, rfl⟩ := List.mem_map.1 hx
    exact (explained_pairValue (h i hi)).later
  · exact explained_misfit nofun

/-! ### Merge keys -/

theorem merges_error : Merges P (.error .malformed) :=
  ⟨nofun, fun _ h => (Except.error.inj h).symm⟩

theorem Sound.merges_of_mapping
    {merged : Except Failure (List (Built × Built))} {text : Option Content} {v : Timed Value}
    (h : Sound P (.mapping tag entries merged text v)) : Merges P merged := by
  cases h with
  | mapping _ hmerged hfail _ _ => exact ⟨hmerged, hfail⟩

/-- Parts that are merged, if there is no failure but that of a text that is no document. -/
theorem exists_of_mapM {γ : Type} {f : γ → Except Failure (List (Built × Built))} {xs : List γ}
    (h : ∀ x ∈ xs, Merges P (f x)) :
    (∃ parts, xs.mapM f = .ok parts ∧ ∀ b ∈ nodesOf parts.flatten, Sound P b) ∨
      xs.mapM f = .error .malformed := by
  induction xs with
  | nil => exact .inl ⟨[], rfl, nofun⟩
  | cons x xs ih =>
    obtain ⟨hx, hxs⟩ := List.forall_mem_cons.1 h
    rw [List.mapM_cons]
    cases hpart : f x with
    | error e =>
      obtain rfl := hx.failure e hpart
      exact .inr rfl
    | ok part =>
      obtain ⟨parts, hparts, hsound⟩ | hfail := ih hxs
      · refine .inl ⟨part :: parts, by rw [hparts]; rfl, ?_⟩
        rw [List.flatten_cons, nodesOf, List.flatMap_append, List.forall_mem_append]
        exact ⟨hx.nodes part hpart, hsound⟩
      · exact .inr (by rw [hfail]; rfl)

theorem merges_mapM {γ : Type} {f : γ → Except Failure (List (Built × Built))} {xs : List γ}
    {g : List (List (Built × Built)) → List (Built × Built)} (h : ∀ x ∈ xs, Merges P (f x))
    (hg : ∀ parts, (∀ b ∈ nodesOf parts.flatten, Sound P b) → ∀ b ∈ nodesOf (g parts), Sound P b) :
    Merges P (do return g (← xs.mapM f)) := by
  obtain ⟨parts, hmap, hsound⟩ | hfail := exists_of_mapM h
  · rw [hmap]
    refine ⟨?_, nofun⟩
    rintro _ ⟨⟩
    exact hg parts hsound
  · rw [hfail]
    exact merges_error

theorem merges_mergedEntries (h : Sound P b) : Merges P b.mergedEntries := by
  unfold mergedEntries
  split
  · exact h.merges_of_mapping
  · rename_i items _
    have hitems : ∀ i ∈ items, Sound P i := by
      cases h with
      | sequence hitems _ => exact hitems
    refine merges_mapM (fun i hi => ?_) fun parts hparts => ?_
    · split
      · exact (hitems _ hi).merges_of_mapping
      · exact merges_error
    · rw [forall_mem_nodesOf_iff] at hparts ⊢
      intro e he
      obtain ⟨part, hpart, he⟩ := List.mem_flatten.1 he
      exact hparts e (List.mem_flatten.2 ⟨part, List.mem_reverse.1 hpart, he⟩)
  · exact merges_error

theorem merges_mergeEntries (h : ∀ b ∈ nodesOf entries, Sound P b) :
    Merges P (mergeEntries entries) := by
  rw [forall_mem_nodesOf_iff] at h
  refine merges_mapM (fun e he => ?_) fun parts hparts => ?_
  · exact merges_mergedEntries (h e (List.mem_filter.1 he).1).2
  · rw [nodesOf, List.flatMap_append, List.forall_mem_append]
    exact ⟨hparts, forall_mem_nodesOf_iff.2 fun e he => h e (List.mem_filter.1 he).1⟩

/-! ### Mappings -/

theorem explained_keyValue (h : Sound P b) : b.keyValue.Explained P := by
  have hvalue : (if b.tag = .value then scalarValue .text b.text else b.value).Explained P := by
    split
    · exact explained_scalarValue fun c hc => h.text hc
    · exact h.value
  unfold keyValue
  dsimp only
  split
  · split
    · exact Timed.explained_ok _
    · exact Timed.explained_malformed
  · rename_i e he
    split
    · exact Timed.explained_error (hvalue e he)
    · exact Timed.explained_malformed

theorem explained_mappingValue (h : ∀ b ∈ nodesOf entries, Sound P b) :
    (mappingValue entries).Explained P := by
  refine (Timed.explained_all fun x hx => ?_).map _
  obtain ⟨e, he, rfl⟩ := List.mem_map.1 hx
  obtain ⟨hk, hv⟩ := forall_mem_nodesOf_iff.1 h e he
  exact ((explained_keyValue hk).both hv.value).later

theorem explained_entriesValue {merged : Except Failure (List (Built × Built))}
    (h : Merges P merged) : (entriesValue merged).Explained P := by
  unfold entriesValue
  split
  · exact explained_mappingValue (h.nodes _ rfl)
  · exact Timed.explained_error (.inl (h.failure _ rfl))

theorem sound_ofEntries (h : ∀ b ∈ nodesOf entries, Sound P b) :
    (ofEntries tag entries).Sound P := by
  have hmerged := merges_mergeEntries h
  have htext : ∀ c ∈ (entries.find? (·.1.tag = .value)).bind (·.2.text), P c := by
    intro c hc
    obtain ⟨e, he, hc⟩ := Option.bind_eq_some_iff.1 hc
    exact (forall_mem_nodesOf_iff.1 h e (List.mem_of_find?_eq_some he)).2.text hc
  refine .mapping h hmerged.nodes hmerged.failure htext ?_
  split
  · exact (explained_entriesValue hmerged).map _
  split
  · exact (explained_entriesValue hmerged).map _
  · exact explained_misfit htext

/-! ### Documents -/

/-- Names of sound nodes. -/
def SoundNames (P : Content → Prop) (names : Names) : Prop := ∀ e ∈ names, Sound P e.2

mutual

/-- A node whose scalars have some of the contents is sound, and so are the nodes it names. -/
theorem sound_build : ∀ (n : Node) {names : Names}, (∀ c, n.Writes c → P c) → SoundNames P names →
    Sound P (n.build names).1 ∧ SoundNames P (n.build names).2
  | .scalar tag c, names, h, hnames => by
    rw [Node.build]
    exact ⟨sound_ofScalar (h c (.scalar tag)), hnames⟩
  | .sequence tag items, names, h, hnames => by
    obtain ⟨hitems, hnames⟩ := sound_buildItems items (fun n hn c hc => h c (.item hn hc)) hnames
    rw [Node.build]
    exact ⟨sound_ofItems hitems, hnames⟩
  | .mapping tag entries, names, h, hnames => by
    obtain ⟨hentries, hnames⟩ := sound_buildEntries entries
      (fun e he c hc => h c (.key he hc)) (fun e he c hc => h c (.value he hc)) hnames
    rw [Node.build]
    exact ⟨sound_ofEntries hentries, hnames⟩
  | .alias name, names, _, hnames => by
    rw [Node.build]
    refine ⟨?_, hnames⟩
    change Sound P ((names.lookup name).getD (.ofEntries .map []))
    cases hname : names.lookup name with
    | none => exact sound_ofEntries nofun
    | some b =>
      obtain ⟨before, after, rfl, -⟩ := List.lookup_eq_some_iff.1 hname
      exact hnames _ (List.mem_append_right _ List.mem_cons_self)
  | .named name n, names, h, hnames => by
    obtain ⟨hn, hnames⟩ := sound_build n (fun c hc => h c (.named name hc)) hnames
    rw [Node.build]
    exact ⟨hn, List.forall_mem_cons.2 ⟨hn, hnames⟩⟩

theorem sound_buildItems : ∀ (ns : List Node) {names : Names},
    (∀ n ∈ ns, ∀ c, n.Writes c → P c) → SoundNames P names →
    (∀ b ∈ (buildItems ns names).1, Sound P b) ∧ SoundNames P (buildItems ns names).2
  | [], names, _, hnames => ⟨nofun, hnames⟩
  | n :: ns, names, h, hnames => by
    obtain ⟨hn, hns⟩ := List.forall_mem_cons.1 h
    obtain ⟨hn, hnames⟩ := sound_build n hn hnames
    obtain ⟨hns, hnames⟩ := sound_buildItems ns hns hnames
    rw [buildItems]
    exact ⟨List.forall_mem_cons.2 ⟨hn, hns⟩, hnames⟩

theorem sound_buildEntries : ∀ (es : List (Node × Node)) {names : Names},
    (∀ e ∈ es, ∀ c, e.1.Writes c → P c) → (∀ e ∈ es, ∀ c, e.2.Writes c → P c) →
    SoundNames P names → (∀ b ∈ nodesOf (buildEntries es names).1, Sound P b) ∧
      SoundNames P (buildEntries es names).2
  | [], names, _, _, hnames => ⟨nofun, hnames⟩
  | (k, v) :: es, names, hkeys, hvalues, hnames => by
    obtain ⟨hk, hkeys⟩ := List.forall_mem_cons.1 hkeys
    obtain ⟨hv, hvalues⟩ := List.forall_mem_cons.1 hvalues
    obtain ⟨hk, hnames⟩ := sound_build k hk hnames
    obtain ⟨hv, hnames⟩ := sound_build v hv hnames
    obtain ⟨hes, hnames⟩ := sound_buildEntries es hkeys hvalues hnames
    rw [buildEntries]
    exact ⟨List.forall_mem_cons.2 ⟨hk, List.forall_mem_cons.2 ⟨hv, hes⟩⟩, hnames⟩

end

end Built

end

/-! ### The structure of a document -/

namespace Parse

/-- A reader that fails as a text that is no document does, as nesting that is too deep does, or as
the tokens have failed before. -/
structure Honest {α : Type} (p : Parse α) : Prop where
  keeps : ∀ {s a s'}, p s = .ok (a, s') → s'.failure = s.failure
  failure : ∀ {s f}, p s = .error f → f = .malformed ∨ f = .tooDeep ∨ s.failure = some f

section

variable {α β : Type} {p : Parse α} {f : α → Parse β}

theorem honest_pure (a : α) : Honest (pure a : Parse α) where
  keeps h := by cases h; rfl
  failure h := nomatch h

theorem honest_fail : Honest (fail : Parse α) where
  keeps h := nomatch h
  failure h := .inl (Except.error.inj h).symm

theorem honest_tooDeep : Honest (throw .tooDeep : Parse α) where
  keeps h := nomatch h
  failure h := .inr (.inl (Except.error.inj h).symm)

theorem honest_get : Honest (get : Parse Parsing) where
  keeps h := by cases h; rfl
  failure h := nomatch h

theorem honest_modify {g : Parsing → Parsing} (hg : ∀ s, (g s).failure = s.failure) :
    Honest (modify g : Parse Unit) where
  keeps h := by cases h; exact hg _
  failure h := nomatch h

theorem Honest.bind (hp : Honest p) (hf : ∀ a, Honest (f a)) : Honest (p >>= f) where
  keeps {s b s'} h := by
    change (p s >>= fun r => f r.1 r.2) = _ at h
    cases hr : p s with
    | error e => rw [hr] at h; cases h
    | ok r =>
      rw [hr] at h
      exact ((hf r.1).keeps h).trans (hp.keeps hr)
  failure {s e} h := by
    change (p s >>= fun r => f r.1 r.2) = _ at h
    cases hr : p s with
    | error e' =>
      rw [hr] at h
      obtain rfl := Except.error.inj h
      exact hp.failure hr
    | ok r =>
      rw [hr] at h
      rw [← hp.keeps hr]
      exact (hf r.1).failure h

theorem peek_eq (s : Parsing) : peek s = match s.tokens with
    | t :: _ => .ok (t, s)
    | [] => .error (s.failure.getD .malformed) := by
  change (match s.tokens with
    | t :: _ => pure t
    | [] => throw (s.failure.getD .malformed) : Parse Token) s = _
  cases s.tokens <;> rfl

theorem honest_peek : Honest peek where
  keeps {s a s'} h := by
    rw [peek_eq] at h
    split at h
    · cases h
      rfl
    · cases h
  failure {s f} h := by
    rw [peek_eq] at h
    split at h
    · cases h
    · obtain rfl := Except.error.inj h
      cases hs : s.failure with
      | none => exact .inl rfl
      | some f => exact .inr (.inr rfl)

theorem honest_take : Honest take := honest_modify fun _ => rfl

theorem honest_accept (t : Token) : Honest (accept t) := by
  refine honest_peek.bind fun t' => ?_
  split
  · exact honest_take.bind fun _ => honest_pure _
  · exact honest_pure _

theorem honest_ite {c : Prop} [Decidable c] {q : Parse α} (hp : Honest p) (hq : Honest q) :
    Honest (if c then p else q) := by
  split
  · exact hp
  · exact hq

end

section

variable {item : Parse Node}

theorem honest_orNothing (hitem : Honest item) (stops : List Token) :
    Honest (orNothing stops item) :=
  honest_peek.bind fun _ => honest_ite (honest_pure _) hitem

theorem honest_valueOf (hitem : Honest item) (stops : List Token) :
    Honest (valueOf item stops) :=
  (honest_accept _).bind fun _ => honest_ite (honest_orNothing hitem stops) (honest_pure _)

theorem honest_blockItems (hitem : Honest item) (fuel : Nat) : Honest (blockItems item fuel) := by
  induction fuel with
  | zero => exact honest_fail
  | succ fuel ih =>
    refine (honest_accept _).bind fun _ => honest_ite ?_ ?_
    · exact (honest_orNothing hitem _).bind fun _ => ih.bind fun _ => honest_pure _
    · exact (honest_accept _).bind fun _ => honest_ite (honest_pure _) honest_fail

theorem honest_bareItems (hitem : Honest item) (fuel : Nat) : Honest (bareItems item fuel) := by
  induction fuel with
  | zero => exact honest_fail
  | succ fuel ih =>
    refine (honest_accept _).bind fun _ => honest_ite ?_ (honest_pure _)
    exact (honest_orNothing hitem _).bind fun _ => ih.bind fun _ => honest_pure _

theorem honest_blockEntries (hitem : Honest item) (fuel : Nat) :
    Honest (blockEntries item fuel) := by
  induction fuel with
  | zero => exact honest_fail
  | succ fuel ih =>
    refine (honest_accept _).bind fun _ => honest_ite ?_ ?_
    · exact (honest_orNothing hitem _).bind fun _ => (honest_valueOf hitem _).bind fun _ =>
        ih.bind fun _ => honest_pure _
    · exact (honest_accept _).bind fun _ => honest_ite (honest_pure _) honest_fail

theorem honest_flowPair (hitem : Honest item) (close : Token) : Honest (flowPair item close) :=
  (honest_orNothing hitem _).bind fun _ => (honest_valueOf hitem _).bind fun _ => honest_pure _

theorem honest_separator (first : Bool) : Honest (separator first) := by
  refine honest_ite ?_ (honest_pure _)
  exact (honest_accept _).bind fun _ => honest_ite honest_fail (honest_pure _)

theorem honest_flowItems (hitem : Honest item) (fuel : Nat) (first : Bool) :
    Honest (flowItems item fuel first) := by
  induction fuel generalizing first with
  | zero => exact honest_fail
  | succ fuel ih =>
    refine (honest_accept _).bind fun _ => honest_ite (honest_pure _) ?_
    refine (honest_separator first).bind fun _ => ?_
    refine (honest_accept _).bind fun _ => honest_ite ?_ ?_
    · exact (honest_flowPair hitem _).bind fun _ => (ih false).bind fun _ => honest_pure _
    refine (honest_accept _).bind fun _ => honest_ite (honest_pure _) ?_
    exact hitem.bind fun _ => (ih false).bind fun _ => honest_pure _

theorem honest_flowEntries (hitem : Honest item) (fuel : Nat) (first : Bool) :
    Honest (flowEntries item fuel first) := by
  induction fuel generalizing first with
  | zero => exact honest_fail
  | succ fuel ih =>
    refine (honest_accept _).bind fun _ => honest_ite (honest_pure _) ?_
    refine (honest_separator first).bind fun _ => ?_
    refine (honest_accept _).bind fun _ => honest_ite ?_ ?_
    · exact (honest_flowPair hitem _).bind fun _ => (ih false).bind fun _ => honest_pure _
    refine (honest_accept _).bind fun _ => honest_ite (honest_pure _) ?_
    exact hitem.bind fun _ => (ih false).bind fun _ => honest_pure _

end

theorem honest_tagName (t : WrittenTag) : Honest (tagName t) := by
  unfold tagName
  split
  · exact honest_pure _
  · refine honest_get.bind fun s => ?_
    split
    · exact honest_pure _
    · exact honest_fail

theorem honest_anchor? : Honest anchor? := by
  refine honest_peek.bind fun t => ?_
  split
  · exact honest_take.bind fun _ => honest_pure _
  · exact honest_pure _

theorem honest_tag? : Honest tag? := by
  refine honest_peek.bind fun t => ?_
  split
  · exact honest_take.bind fun _ => honest_pure _
  · exact honest_pure _

theorem honest_properties : Honest properties := by
  refine honest_anchor?.bind fun first => honest_tag?.bind fun tag => ?_
  cases tag with
  | some t =>
    have hrest : ∀ second : Option (List Char),
        Honest (do return (first.or second, some (← tagName t))) := fun _ =>
      (honest_tagName t).bind fun _ => honest_pure _
    exact honest_ite (honest_anchor?.bind hrest) ((honest_pure _).bind hrest)
  | none =>
    exact honest_ite (honest_anchor?.bind fun _ => honest_pure _)
      ((honest_pure _).bind fun _ => honest_pure _)

theorem honest_content {node : Place → Parse Node} (hnode : ∀ p, Honest (node p)) (place : Place)
    (named : Bool) (tag : Option (List Char)) : Honest (content node place named tag) := by
  refine honest_get.bind fun s => honest_peek.bind fun t => ?_
  split
  · exact honest_take.bind fun _ => honest_pure _
  · exact honest_take.bind fun _ => (honest_flowItems (hnode _) _ _).bind fun _ => honest_pure _
  · exact honest_take.bind fun _ => (honest_flowEntries (hnode _) _ _).bind fun _ => honest_pure _
  · refine honest_ite ((honest_bareItems (hnode _) _).bind fun _ => honest_pure _) ?_
    refine honest_ite ?_ (honest_ite ?_ (honest_ite (honest_pure _) honest_fail))
    · exact honest_take.bind fun _ => (honest_blockItems (hnode _) _).bind fun _ => honest_pure _
    · exact honest_take.bind fun _ => (honest_blockEntries (hnode _) _).bind fun _ =>
        honest_pure _

theorem honest_node (depth : Nat) (place : Place) : Honest (node depth place) := by
  induction depth generalizing place with
  | zero => exact honest_tooDeep
  | succ depth ih =>
    refine honest_peek.bind fun t => ?_
    split
    · refine honest_take.bind fun _ => honest_get.bind fun _ => ?_
      exact honest_ite (honest_pure _) honest_fail
    · refine honest_properties.bind fun (name, tag) => ?_
      have hbody : Honest (do
          let body ← content (node depth) place name.isSome tag
          return name.elim body (.named · body)) :=
        (honest_content ih _ _ _).bind fun _ => honest_pure _
      dsimp only
      split
      · refine honest_get.bind fun _ => honest_ite (honest_fail.bind fun _ => ?_) ?_
        · exact Honest.bind (honest_modify fun _ => rfl) fun _ => hbody
        · exact Honest.bind (honest_modify fun _ => rfl) fun _ => hbody
      · exact hbody

theorem honest_directives (fuel : Nat) (versioned : Bool) (handles : List (List Char × List Char)) :
    Honest (directives fuel versioned handles) := by
  induction fuel generalizing versioned handles with
  | zero => exact honest_pure _
  | succ fuel ih =>
    refine honest_peek.bind fun t => ?_
    split
    · have hrest := honest_take.bind fun _ => ih true handles
      exact honest_ite (honest_fail.bind fun _ => hrest) hrest
    · rename_i name stands
      have hrest := honest_take.bind fun _ => ih versioned ((name, stands) :: handles)
      exact honest_ite (honest_fail.bind fun _ => hrest) hrest
    · exact honest_take.bind fun _ => ih _ _
    · exact honest_pure _

theorem honest_skipEnds (fuel : Nat) : Honest (skipEnds fuel) := by
  induction fuel with
  | zero => exact honest_pure _
  | succ fuel ih => exact (honest_accept _).bind fun _ => honest_ite ih (honest_pure _)

theorem honest_markedRoot : Honest markedRoot := by
  refine honest_get.bind fun s => (honest_directives _ _ _).bind fun handles => ?_
  refine Honest.bind (honest_modify fun _ => rfl) fun _ => (honest_accept _).bind fun started => ?_
  have hroot := honest_peek.bind fun t => honest_ite (c := endsDocument t) (honest_pure nothing)
    (honest_node (nestingLimit + 1) .block)
  exact honest_ite (honest_fail.bind fun _ => hroot) hroot

theorem honest_onlyDocument : Honest onlyDocument := by
  refine honest_peek.bind fun first => ?_
  have hend : ∀ root : Node, Honest (do
      skipEnds (← get).tokens.length
      if (← peek) = .streamEnd then return some root else fail) := fun root =>
    honest_get.bind fun _ => (honest_skipEnds _).bind fun _ => honest_peek.bind fun _ =>
      honest_ite (honest_pure _) honest_fail
  refine honest_ite (honest_pure _) (honest_ite ?_ ?_)
  · exact honest_markedRoot.bind hend
  · exact (honest_node _ _).bind hend

end Parse

theorem failure_of_ofTokens {ts : TokenStream} {f : Failure} (h : Node.ofTokens ts = .error f) :
    f = .malformed ∨ f = .tooDeep ∨ ts.failure = some f := by
  unfold Node.ofTokens at h
  cases hdocument : Parse.onlyDocument.run ⟨ts.tokens, ts.failure, Parse.usualHandles, []⟩ with
  | ok r => rw [hdocument] at h; cases h
  | error e =>
    rw [hdocument] at h
    obtain rfl := Except.error.inj h
    exact Parse.honest_onlyDocument.failure hdocument

/-! ### Texts -/

/-- A failure of a text that is a document comes from its tokens, from nesting that is too deep, or
from a scalar in it whose characters denote nothing under a tag. -/
theorem failure_of_load {cs : List Char} {f : Failure} (h : load cs = .error f)
    (hf : f ≠ .malformed) : (tokens cs).failure = some f ∨ f = .tooDeep ∨
      ∃ root tag c, Node.ofTokens (tokens cs) = .ok (some root) ∧ root.Writes c ∧
        Built.scalarOf tag c.chars = .error f := by
  unfold load at h
  split at h
  · exact absurd (Except.error.inj h).symm hf
  cases hroot : Node.ofTokens (tokens cs) with
  | error e =>
    rw [hroot] at h
    obtain rfl := Except.error.inj h
    obtain h | h | h := failure_of_ofTokens hroot
    · exact absurd h hf
    · exact .inr (.inl h)
    · exact .inl h
  | ok root =>
    rw [hroot] at h
    cases root with
    | none => cases h
    | some root =>
      have hnames : Built.SoundNames (fun c => root.Writes c) [] := nofun
      obtain ⟨hsound, -⟩ := Built.sound_build root (fun c hc => hc) hnames
      change (root.build []).1.value.mapError (·.failure) = _ at h
      cases hvalue : (root.build []).1.value with
      | ok v =>
        rw [hvalue] at h
        cases h
      | error e =>
        rw [hvalue] at h
        obtain rfl := Except.error.inj h
        obtain h | ⟨tag, c, hwrites, hscalar⟩ := hsound.value e hvalue
        · exact absurd h hf
        · exact .inr (.inr ⟨root, tag, c, rfl, hwrites, hscalar⟩)

end Patronage.Yaml
