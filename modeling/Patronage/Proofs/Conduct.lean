import Patronage.Proofs.Schedule
/-!
# What programs keep

Between two calls of a program other programs run.  A `Discipline` says what a program may rely on
meanwhile, what each of its calls must keep in turn, and an invariant that holds all the time.
`Program.Keeps` says that a program is so disciplined and that its result satisfies a
postcondition; it follows the tree of the program.  Main statements:

* `System.Disciplined.play` — disciplined requests stay so however they take turns;
* `Program.Keeps.run` — a disciplined program that nobody interrupts ends as it promised;
* `System.Alone.play` — requests that wait for each other need not mind what others do.
-/

namespace Patronage

open Log

/-- The same but for the clock, the log fields bound and the events written. -/
structure World.Alike (w w' : World) : Prop where
  store : w'.store = w.store
  ledger : w'.ledger = w.ledger
  registry : w'.registry = w.registry
  catalog : w'.catalog = w.catalog
  tokens : w'.tokens = w.tokens

/-- The same past, and worlds that are alike. -/
structure Course.Alike (s s' : Course) : Prop where
  world : World.Alike s.world s'.world
  past : s'.past = s.past

namespace World.Alike

theorem refl (w : World) : Alike w w := ⟨rfl, rfl, rfl, rfl, rfl⟩

theorem trans {w w' w'' : World} (h : Alike w w') (h' : Alike w' w'') : Alike w w'' :=
  ⟨h'.store.trans h.store, h'.ledger.trans h.ledger, h'.registry.trans h.registry,
    h'.catalog.trans h.catalog, h'.tokens.trans h.tokens⟩

theorem writeAll (w : World) (es : List Entry) : Alike w (w.writeAll es) := by
  induction es generalizing w with
  | nil => exact refl w
  | cons e es ih =>
    have hw : Alike w (w.write e) := ⟨rfl, rfl, rfl, rfl, rfl⟩
    exact hw.trans (ih (w.write e))

end World.Alike

namespace World

variable (w : World) (es : List Entry)

@[simp] theorem store_writeAll : (w.writeAll es).store = w.store := (Alike.writeAll w es).store

@[simp] theorem ledger_writeAll : (w.writeAll es).ledger = w.ledger := (Alike.writeAll w es).ledger

@[simp] theorem registry_writeAll : (w.writeAll es).registry = w.registry :=
  (Alike.writeAll w es).registry

@[simp] theorem catalog_writeAll : (w.writeAll es).catalog = w.catalog :=
  (Alike.writeAll w es).catalog

@[simp] theorem tokens_writeAll : (w.writeAll es).tokens = w.tokens := (Alike.writeAll w es).tokens

end World

namespace Course.Alike

theorem refl (s : Course) : Alike s s := ⟨.refl _, rfl⟩

theorem trans {s s' s'' : Course} (h : Alike s s') (h' : Alike s' s'') : Alike s s'' :=
  ⟨h.world.trans h'.world, h'.past.trans h.past⟩

theorem within (s : Course) (ctx : Context Field) : Alike s (s.within ctx) :=
  ⟨⟨rfl, rfl, rfl, rfl, rfl⟩, rfl⟩

theorem clockAt (s : Course) (now : Moment) : Alike s (s.clockAt now) :=
  ⟨⟨rfl, rfl, rfl, rfl, rfl⟩, rfl⟩

theorem write (s : Course) (e : Entry) : Alike s { s with world := s.world.write e } :=
  ⟨⟨rfl, rfl, rfl, rfl, rfl⟩, rfl⟩

end Course.Alike

/-- What programs may rely on between their calls and must keep at them. -/
structure Discipline (ι : Type) where
  service : Service ι
  /-- Holds before and after every call. -/
  inv : Course → Prop
  /-- What may happen between two calls of a program. -/
  rely : Course → Course → Prop
  /-- What a call of a program may do. -/
  keep : Course → Course → Prop
  refl : ∀ s, rely s s
  trans : ∀ {s s' s''}, rely s s' → rely s' s'' → rely s s''
  alike : ∀ {s s'}, s.Alike s' → rely s s'
  inv_alike : ∀ {s s'}, s.Alike s' → inv s → inv s'

namespace Discipline

variable {ι : Type} (D : Discipline ι)

/-- What others may have done until a course is met. -/
structure Meets (s s' : Course) : Prop where
  rely : D.rely s s'
  inv : D.inv s'

/-- The discipline where the service has less of a choice. -/
def restrict {κ : Type} (choose : κ → ι) : Discipline κ :=
  { D with service := fun k => D.service (choose k) }

variable {D}

theorem Meets.trans {s s' s'' : Course} (h : D.Meets s s') (h' : D.Meets s' s'') :
    D.Meets s s'' := ⟨D.trans h.rely h'.rely, h'.inv⟩

theorem Meets.refl {s : Course} (h : D.inv s) : D.Meets s s := ⟨D.refl s, h⟩

theorem Meets.alike {s s' : Course} (h : s.Alike s') (hi : D.inv s) : D.Meets s s' :=
  ⟨D.alike h, D.inv_alike h hi⟩

end Discipline

theorem eq_ok_of_isOk {ε : Type} {r : Except ε Unit} (h : r.isOk) : r = .ok () := by
  cases r with
  | error e => cases h
  | ok _ => rfl

theorem eq_ok_of_toOption {ε α : Type} {r : Except ε α} {a : α} (h : r.toOption = some a) :
    r = .ok a := by
  cases r with
  | error e => cases h
  | ok b => exact congrArg Except.ok (Option.some.inj h)

theorem mapError_eq_ok {ε ε' α : Type} {f : ε → ε'} {r : Except ε α} {a : α}
    (h : r.mapError f = .ok a) : r = .ok a := by
  cases r with
  | error e => cases h
  | ok b => exact congrArg Except.ok (Except.ok.inj h)

theorem exists_of_bind_eq_ok {ε α β : Type} {r : Except ε α} {f : α → Except ε β} {b : β}
    (h : r >>= f = .ok b) : ∃ a, r = .ok a ∧ f a = .ok b := by
  cases r with
  | error e => cases h
  | ok a => exact ⟨a, rfl, h⟩

namespace Program

variable {ι α β : Type} (D : Discipline ι)

/-- Whatever others do meanwhile, each call of the program keeps the discipline, and the result
satisfies `post` from then on. -/
def Keeps (post : Except Fault α → Course → Prop) : Program α → Course → Prop
  | .done r, s => ∀ s', D.Meets s s' → post r s'
  | .call c next, s => ∀ s', D.Meets s s' → ∀ i,
    D.keep s' (D.service i c s').2 ∧ D.inv (D.service i c s').2 ∧
      Keeps post (next (D.service i c s').1) (D.service i c s').2
  | .enter _ next, s => ∀ saved, Keeps post (next saved) s
  | .leave _ next, s => Keeps post next s
  | .log _ next, s => Keeps post next s

/-- A postcondition for success only. -/
def onOk (post : α → Course → Prop) (r : Except Fault α) (s : Course) : Prop :=
  ∀ a, r = .ok a → post a s

variable {D} {post mid : Except Fault α → Course → Prop}

/-- A disciplined program stays so whatever others do. -/
theorem Keeps.meets {p : Program α} {s s' : Course} (h : Keeps D post p s) (hs : D.Meets s s') :
    Keeps D post p s' := by
  induction p with
  | done r => exact fun s'' h' => h s'' (hs.trans h')
  | call c next _ => exact fun s'' h' => h s'' (hs.trans h')
  | enter fields next ih => exact fun saved => ih saved (h saved)
  | leave saved next ih => exact ih h
  | log e next ih => exact ih h

theorem Keeps.mono {p : Program α} {s : Course} (h : Keeps D mid p s)
    (hpost : ∀ r s', D.inv s' → mid r s' → post r s') : Keeps D post p s := by
  induction p generalizing s with
  | done r => exact fun s' h' => hpost r s' h'.inv (h s' h')
  | call c next ih =>
    intro s' h' i
    obtain ⟨hk, hi, hn⟩ := h s' h' i
    exact ⟨hk, hi, ih _ hn⟩
  | enter fields next ih => exact fun saved => ih saved (h saved)
  | leave saved next ih => exact ih h
  | log e next ih => exact ih h

theorem Keeps.andThen {post : Except Fault β → Course → Prop} {p : Program α}
    {f : Except Fault α → Program β} {s : Course} (h : Keeps D mid p s) (hs : D.inv s)
    (hf : ∀ r s', D.inv s' → mid r s' → Keeps D post (f r) s') :
    Keeps D post (p.andThen f) s := by
  induction p generalizing s with
  | done r => exact hf r s hs (h s (.refl hs))
  | call c next ih =>
    intro s' h' i
    obtain ⟨hk, hi, hn⟩ := h s' h' i
    exact ⟨hk, hi, ih _ hn hi⟩
  | enter fields next ih => exact fun saved => ih saved (h saved) hs
  | leave saved next ih => exact ih h hs
  | log e next ih => exact ih h hs

theorem Keeps.within {p : Program α} {s : Course} (h : Keeps D post p s) (hs : D.inv s)
    (hpost : ∀ r s' s'', D.Meets s' s'' → post r s' → post r s'') (fields : Log.Fields Field) :
    Keeps D post (p.within fields) s :=
  fun _ => h.andThen hs fun r s' _ hr s'' h' => hpost r s' s'' h' hr

/-- On success a bound program goes on where the first one ended. -/
theorem Keeps.bind {post : α → Course → Prop} {post' : β → Course → Prop} {p : Program α}
    {f : α → Program β} {s : Course} (h : Keeps D (onOk post) p s) (hs : D.inv s)
    (hf : ∀ a s', D.inv s' → post a s' → Keeps D (onOk post') (f a) s') :
    Keeps D (onOk post') (p >>= f) s := by
  refine Keeps.andThen h hs fun r s' hi hr => ?_
  cases r with
  | error e => exact fun s'' _ a he => nomatch he
  | ok a => exact hf a s' hi (hr a rfl)

/-- Of a bound program as a whole nothing need be known. -/
theorem Keeps.bind_any {post : α → Course → Prop} {p : Program α} {f : α → Program β} {s : Course}
    (h : Keeps D (onOk post) p s) (hs : D.inv s)
    (hf : ∀ a s', D.inv s' → post a s' → Keeps D (fun _ _ => True) (f a) s') :
    Keeps D (fun _ _ => True) (p >>= f) s := by
  refine Keeps.andThen h hs fun r s' hi hr => ?_
  cases r with
  | error e => exact fun _ _ => trivial
  | ok a => exact hf a s' hi (hr a rfl)

/-- Of a bound program all is known if a fault of the first one is what is promised of both. -/
theorem Keeps.bind_post {mid : α → Course → Prop} {post : Except Fault β → Course → Prop}
    {p : Program α} {f : α → Program β} {s : Course}
    (h : Keeps D (fun r s' => onOk mid r s' ∧ ∀ e, r = .error e → post (.error e) s') p s)
    (hs : D.inv s) (stable : ∀ {r s s'}, D.Meets s s' → post r s → post r s')
    (hf : ∀ a s', D.inv s' → mid a s' → Keeps D post (f a) s') : Keeps D post (p >>= f) s := by
  refine Keeps.andThen h hs fun r s' hi hr => ?_
  cases r with
  | error e => exact fun s'' h' => stable h' (hr.2 e rfl)
  | ok a => exact hf a s' hi (hr.1 a rfl)

/-- What the first program keeps in any case, the bound program keeps if the second one does. -/
theorem Keeps.bind_inv {I : Course → Prop} {mid : α → Course → Prop} {p : Program α}
    {f : α → Program β} {s : Course} (h : Keeps D (fun r s' => I s' ∧ onOk mid r s') p s)
    (hs : D.inv s) (stable : ∀ {s s'}, D.Meets s s' → I s → I s')
    (hf : ∀ a s', D.inv s' → I s' → mid a s' → Keeps D (fun _ s' => I s') (f a) s') :
    Keeps D (fun _ s' => I s') (p >>= f) s := by
  have hpost : Keeps D (fun r s' => onOk (fun a s' => I s' ∧ mid a s') r s' ∧
      ∀ e, r = .error e → I s') p s :=
    h.mono fun _ _ _ h => ⟨fun a ha => ⟨h.1, h.2 a ha⟩, fun _ _ => h.1⟩
  exact hpost.bind_post hs (fun hm hp => stable hm hp) fun a s' hi ⟨hI, ha⟩ => hf a s' hi hI ha

/-- Two promises of one program hold together. -/
theorem Keeps.and {post' : Except Fault α → Course → Prop} {p : Program α} {s : Course}
    (h : Keeps D post p s) (h' : Keeps D post' p s) :
    Keeps D (fun r s' => post r s' ∧ post' r s') p s := by
  induction p generalizing s with
  | done r => exact fun s' hs => ⟨h s' hs, h' s' hs⟩
  | call c next ih =>
    intro s' hs i
    obtain ⟨hk, hi, hn⟩ := h s' hs i
    obtain ⟨-, -, hn'⟩ := h' s' hs i
    exact ⟨hk, hi, ih _ hn hn'⟩
  | enter fields next ih => exact fun saved => ih saved (h saved) (h' saved)
  | leave saved next ih => exact ih h h'
  | log e next ih => exact ih h h'

/-- What a program promises of a service it promises where the service has less of a choice. -/
theorem Keeps.restrict {κ : Type} {p : Program α} {s : Course} (h : Keeps D post p s)
    (choose : κ → ι) : Keeps (D.restrict choose) post p s := by
  induction p generalizing s with
  | done r => exact fun s' hs => h s' ⟨hs.rely, hs.inv⟩
  | call c next ih =>
    intro s' hs k
    obtain ⟨hk, hi, hn⟩ := h s' ⟨hs.rely, hs.inv⟩ (choose k)
    exact ⟨hk, hi, ih _ hn⟩
  | enter fields next ih => exact fun saved => ih saved (h saved)
  | leave saved next ih => exact ih h
  | log e next ih => exact ih h

/-- A disciplined program that nobody interrupts ends as it promised. -/
theorem Keeps.run {p : Program α} {s : Course} (h : Keeps D post p s) (hs : D.inv s) (i : ι) :
    D.inv (p.run (D.service.host i) s).2 ∧
      post (p.run (D.service.host i) s).1 (p.run (D.service.host i) s).2 := by
  induction p generalizing s with
  | done r => exact ⟨hs, h s (.refl hs)⟩
  | call c next ih =>
    obtain ⟨-, hi, hn⟩ := h s (.refl hs) i
    exact ih _ hn hi
  | enter fields next ih =>
    have ha : s.Alike (s.within (s.world.context.bind fields)) := .within _ _
    exact ih _ ((h _).meets (.alike ha hs)) (D.inv_alike ha hs)
  | leave saved next ih =>
    have ha : s.Alike (s.within (s.world.context.restore saved)) := .within _ _
    exact ih (Keeps.meets h (.alike ha hs)) (D.inv_alike ha hs)
  | log e next ih =>
    have ha : s.Alike { s with world := s.world.write e } := .write _ _
    exact ih (Keeps.meets h (.alike ha hs)) (D.inv_alike ha hs)

theorem keeps_ofExcept (post : α → Prop) {r : Except Fault α} {s : Course}
    (h : ∀ a, r = .ok a → post a) : Keeps D (onOk fun a _ => post a) (.ofExcept r) s :=
  fun _ _ => h

/-- A program that has failed keeps every promise about success. -/
theorem keeps_error {post : α → Course → Prop} {e : Fault} {s : Course} :
    Keeps D (onOk post) (.done (.error e)) s := fun _ _ _ he => nomatch he

end Program

/-! ### Programs and the calls they make -/

namespace Program

variable {α β : Type}

/-- The program makes only calls of some kind, whatever they answer. -/
def Uses (P : Call → Prop) : Program α → Prop
  | .done _ => True
  | .call c next => P c ∧ ∀ r, Uses P (next r)
  | .enter _ next => ∀ saved, Uses P (next saved)
  | .leave _ next => Uses P next
  | .log _ next => Uses P next

variable {P : Call → Prop}

theorem uses_ask {c : Call} (h : P c) : (ask c).Uses P := ⟨h, fun _ => trivial⟩

theorem uses_ofExcept (r : Except Fault α) : (ofExcept r).Uses P := trivial

theorem Uses.mono {Q : Call → Prop} {p : Program α} (h : p.Uses P) (hPQ : ∀ c, P c → Q c) :
    p.Uses Q := by
  induction p with
  | done r => trivial
  | call c next ih => exact ⟨hPQ c h.1, fun r => ih r (h.2 r)⟩
  | enter fields next ih => exact fun saved => ih saved (h saved)
  | leave saved next ih => exact ih h
  | log e next ih => exact ih h

/-- Whatever calls a program makes, they are calls. -/
theorem uses_any (p : Program α) : p.Uses fun _ => True := by
  induction p with
  | done r => trivial
  | call c next ih => exact ⟨trivial, ih⟩
  | enter fields next ih => exact ih
  | leave saved next ih => exact ih
  | log e next ih => exact ih

theorem Uses.andThen {p : Program α} {f : Except Fault α → Program β} (h : p.Uses P)
    (hf : ∀ r, (f r).Uses P) : (p.andThen f).Uses P := by
  induction p with
  | done r => exact hf r
  | call c next ih => exact ⟨h.1, fun r => ih r (h.2 r)⟩
  | enter fields next ih => exact fun saved => ih saved (h saved)
  | leave saved next ih => exact ih h
  | log e next ih => exact ih h

theorem Uses.bind {p : Program α} {f : α → Program β} (h : p.Uses P) (hf : ∀ a, (f a).Uses P) :
    (p >>= f).Uses P := by
  refine Uses.andThen h fun r => ?_
  cases r with
  | error e => trivial
  | ok a => exact hf a

theorem Uses.within {p : Program α} (h : p.Uses P) (fields : Log.Fields Field) :
    (p.within fields).Uses P := fun _ => h.andThen fun _ => trivial

end Program

namespace Discipline

variable {ι : Type} (D : Discipline ι)

/-- Every call keeps the discipline, whoever makes it. -/
def Lenient : Prop :=
  ∀ i c s, D.inv s → D.keep s (D.service i c s).2 ∧ D.inv (D.service i c s).2

/-- What a step of one request does to the course. -/
def Turn (s s' : Course) : Prop :=
  ∃ s₁ s₂, s.Alike s₁ ∧ (D.keep s₁ s₂ ∨ s₁ = s₂) ∧ s₂.Alike s'

/-- What calls keep is what others may rely on. -/
def Mutual : Prop := ∀ {s s'}, D.keep s s' → D.rely s s'

variable {D}

theorem Mutual.turn (h : D.Mutual) {s s' : Course} (ht : D.Turn s s') : D.rely s s' := by
  obtain ⟨s₁, s₂, h₁, hk | rfl, h₂⟩ := ht
  · exact D.trans (D.alike h₁) (D.trans (h hk) (D.alike h₂))
  · exact D.trans (D.alike h₁) (D.alike h₂)

/-- What calls of some kind keep, programs that make no others keep. -/
theorem keeps_of_uses_of {P : Call → Prop} {I : Course → Prop}
    (stable : ∀ {s s'}, D.Meets s s' → I s → I s')
    (h : ∀ i c s, P c → D.inv s → I s → D.keep s (D.service i c s).2 ∧
      D.inv (D.service i c s).2 ∧ I (D.service i c s).2)
    {α : Type} {p : Program α} (hp : p.Uses P) {s : Course} (hs : I s) :
    p.Keeps D (fun _ s' => I s') s := by
  induction p generalizing s with
  | done r => exact fun s' h' => stable h' hs
  | call c next ih =>
    intro s' h' i
    obtain ⟨hk, hi, hI⟩ := h i c s' hp.1 h'.inv (stable h' hs)
    exact ⟨hk, hi, ih _ (hp.2 _) hI⟩
  | enter fields next ih => exact fun saved => ih saved (hp saved) hs
  | leave saved next ih => exact ih hp hs
  | log e next ih => exact ih hp hs

/-- Where calls of some kind keep the discipline, programs that make no others do. -/
theorem keeps_of_uses {P : Call → Prop}
    (h : ∀ i c s, P c → D.inv s → D.keep s (D.service i c s).2 ∧ D.inv (D.service i c s).2)
    {α : Type} {p : Program α} (hp : p.Uses P) (s : Course) : p.Keeps D (fun _ _ => True) s :=
  keeps_of_uses_of (fun _ _ => trivial)
    (fun i c s hc hs _ => ⟨(h i c s hc hs).1, (h i c s hc hs).2, trivial⟩) hp trivial

/-- Where every call keeps the discipline, every program does. -/
theorem Lenient.keeps (h : D.Lenient) {α : Type} (p : Program α) (s : Course) :
    p.Keeps D (fun _ _ => True) s :=
  keeps_of_uses (fun i c s _ => h i c s) p.uses_any s

/-- The discipline that asks for an invariant and for nothing else. -/
def keeping (v : Service ι) (P : Course → Prop) (alike : ∀ {s s'}, s.Alike s' → P s → P s') :
    Discipline ι where
  service := v
  inv := P
  rely _ _ := True
  keep _ _ := True
  refl _ := trivial
  trans _ _ := trivial
  alike _ := trivial
  inv_alike := alike

theorem lenient_keeping {v : Service ι} {P : Course → Prop}
    (alike : ∀ {s s'}, s.Alike s' → P s → P s') (call : ∀ i c s, P s → P (v i c s).2) :
    (keeping v P alike).Lenient := fun i c s hs => ⟨trivial, call i c s hs⟩

/-- Where calls keep what others rely on, a program may rely on it for its own calls too. -/
theorem Mutual.since (h : D.Mutual) {α : Type} {post : Except Fault α → Course → Prop}
    {p : Program α} {s s₀ : Course} (hp : p.Keeps D post s) (hs : D.rely s₀ s) :
    p.Keeps D (fun r s' => D.rely s₀ s' ∧ post r s') s := by
  induction p generalizing s with
  | done r => exact fun s' h' => ⟨D.trans hs h'.rely, hp s' h'⟩
  | call c next ih =>
    intro s' h' i
    obtain ⟨hk, hi, hn⟩ := hp s' h' i
    exact ⟨hk, hi, ih _ hn (D.trans hs (D.trans h'.rely (h hk)))⟩
  | enter fields next ih => exact fun saved => ih saved (hp saved) hs
  | leave saved next ih => exact ih hp hs
  | log e next ih => exact ih hp hs

end Discipline

/-! ### Systems of disciplined requests -/

namespace System

variable {ι : Type} {D : Discipline ι}

/-- A disciplined request stays disciplined when it takes its next step. -/
theorem keeps_stepped {s : System} {t : Task} {post : Except Fault t.request.Answer → Course → Prop}
    (hi : D.inv s.course) (h : t.rest.Keeps D post s.course) (i : ι) :
    D.Turn s.course (s.stepped D.service i t).2 ∧ D.inv (s.stepped D.service i t).2 ∧
      (s.stepped D.service i t).1.rest.Keeps D post (s.stepped D.service i t).2 := by
  obtain ⟨r, p, ctx⟩ := t
  have into : s.course.Alike (s.course.within ctx) := .within _ _
  -- a step that makes no call leaves a course that is alike
  have quiet : ∀ {s' : Course} {q : Program r.Answer}, s.course.Alike s' → q.Keeps D post s.course →
      D.Turn s.course s' ∧ D.inv s' ∧ q.Keeps D post s' := fun ha hq =>
    ⟨⟨_, _, .refl _, .inr rfl, ha⟩, D.inv_alike ha hi, hq.meets (.alike ha hi)⟩
  cases p with
  | done x => exact quiet (into.trans (.within _ _)) h
  | call c next =>
    obtain ⟨hk, hi', hn⟩ := h _ (.alike into hi) i
    exact ⟨⟨_, _, into, .inl hk, .within _ _⟩, D.inv_alike (.within _ _) hi',
      hn.meets (.alike (.within _ _) hi')⟩
  | enter fields next => exact quiet ((into.trans (.within _ _)).trans (.within _ _)) (h _)
  | leave saved next => exact quiet ((into.trans (.within _ _)).trans (.within _ _)) h
  | log e next => exact quiet ((into.trans (.write _ e)).trans (.within _ _)) h

variable (D) in
/-- Every request in flight keeps the discipline. -/
structure Disciplined (post : (r : Request) → Except Fault r.Answer → Course → Prop) (s : System) :
    Prop where
  inv : D.inv s.course
  keeps : ∀ t ∈ s.tasks, t.rest.Keeps D (post t.request) s.course

variable {post : (r : Request) → Except Fault r.Answer → Course → Prop}

theorem Disciplined.step (hm : D.Mutual) {s : System} (h : s.Disciplined D post) {m : Move ι}
    (harrive : ∀ r, m = .arrive r → r.program.Keeps D (post r) s.course) :
    D.rely s.course (s.step D.service m).course ∧ (s.step D.service m).Disciplined D post := by
  cases m with
  | arrive r =>
    refine ⟨D.refl _, h.inv, fun t ht => ?_⟩
    obtain ht | ht := List.mem_append.1 ht
    · exact h.keeps t ht
    · obtain rfl := List.mem_singleton.1 ht
      exact harrive r rfl
  | advance k i =>
    cases hk : s.tasks[k]? with
    | none => simpa [System.step, advance, hk] using ⟨D.refl _, h⟩
    | some t =>
      have ht : t ∈ s.tasks := List.mem_of_getElem? hk
      obtain ⟨hturn, hi, hkeeps⟩ := keeps_stepped h.inv (h.keeps t ht) i
      simp only [System.step, advance_of_getElem? hk]
      refine ⟨hm.turn hturn, hi, fun t' ht' => ?_⟩
      obtain ht' | rfl := List.mem_or_eq_of_mem_set ht'
      · exact (h.keeps t' ht').meets ⟨hm.turn hturn, hi⟩
      · exact hkeeps
  | setClock now =>
    have ha : s.course.Alike (s.course.clockAt now) := .clockAt _ _
    exact ⟨D.alike ha, D.inv_alike ha h.inv, fun t ht => (h.keeps t ht).meets (.alike ha h.inv)⟩

/-- Disciplined requests stay so however they take turns. -/
theorem Disciplined.play (hm : D.Mutual) {s : System} (h : s.Disciplined D post)
    {moves : List (Move ι)}
    (harrive : ∀ r, .arrive r ∈ moves → ∀ s', D.inv s' → r.program.Keeps D (post r) s') :
    D.rely s.course (s.play D.service moves).course ∧
      (s.play D.service moves).Disciplined D post := by
  induction moves generalizing s with
  | nil => exact ⟨D.refl _, h⟩
  | cons m moves ih =>
    obtain ⟨hr, hd⟩ := h.step (m := m) hm fun r hr => harrive r (by simp [hr]) _ h.inv
    obtain ⟨hr', hd'⟩ := ih hd fun r hr => harrive r (by simp [hr])
    exact ⟨D.trans hr hr', hd'⟩

/-- Disciplined requests stay so if whatever arrives suits the system that it meets. -/
theorem Disciplined.play_of_admits (hm : D.Mutual) {P : System → Request → Prop}
    (harrive : ∀ {s r}, s.Disciplined D post → P s r → r.program.Keeps D (post r) s.course)
    {s : System} (h : s.Disciplined D post) {moves : List (Move ι)}
    (hmoves : s.Admits D.service P moves) : (s.play D.service moves).Disciplined D post := by
  induction moves generalizing s with
  | nil => exact h
  | cons m moves ih =>
    obtain ⟨hm', hmoves⟩ := hmoves
    have hstep := h.step (m := m) hm fun r hr => harrive h (hm' r hr)
    exact ih hstep.2 hmoves

theorem Disciplined.post_of_done {s : System} (h : s.Disciplined D post) {t : Task}
    (ht : t ∈ s.tasks) {r : Except Fault t.request.Answer} (hr : t.rest = .done r) :
    post t.request r s.course := by
  have hk := h.keeps t ht
  rw [hr] at hk
  exact hk _ (.refl h.inv)

/-- What holds at first and every call keeps holds along every run. -/
theorem forall_play {v : Service ι} {P : Course → Prop}
    (alike : ∀ {s s'}, s.Alike s' → P s → P s') (call : ∀ i c s, P s → P (v i c s).2) {s : System}
    (h : P s.course) (moves : List (Move ι)) : P (s.play v moves).course := by
  have hl : (Discipline.keeping v P alike).Lenient := Discipline.lenient_keeping alike call
  have hd : s.Disciplined (.keeping v P alike) (fun _ _ _ => True) :=
    ⟨h, fun t _ => hl.keeps t.rest s.course⟩
  exact (hd.play (fun _ => trivial) fun r _ s' _ => hl.keeps r.program s').2.inv

/-! ### One request at a time -/

theorem alike_stepped {v : Service ι} {s : System} {t : Task} (h : t.Finished) (i : ι) :
    s.course.Alike (s.stepped v i t).2 ∧ (s.stepped v i t).1.Finished := by
  obtain ⟨x, hx⟩ := h
  simp only [stepped, Task.Finished, hx, Program.step]
  exact ⟨(Course.Alike.within s.course _).trans (.within _ _), x, rfl⟩

theorem keeps_of_finished {t : Task} (h : t.Finished) (s : Course) :
    t.rest.Keeps D (fun _ _ => True) s := by
  obtain ⟨x, hx⟩ := h
  rw [hx]
  exact fun _ _ => trivial

variable (D) in
/-- All requests but one have been answered, and that one keeps the discipline. -/
structure Alone (s : System) : Prop where
  inv : D.inv s.course
  keeps : ∀ t ∈ s.tasks, t.rest.Keeps D (fun _ _ => True) s.course
  single : ∀ {j k : Nat} {t t' : Task}, s.tasks[j]? = some t → s.tasks[k]? = some t' → j ≠ k →
    t.Finished ∨ t'.Finished

theorem Alone.advance {s : System} (h : s.Alone D) (k : Nat) (i : ι) :
    (s.advance D.service k i).Alone D := by
  cases hk : s.tasks[k]? with
  | none => simpa [System.advance, hk] using h
  | some t =>
    obtain ⟨-, hi, hkeeps⟩ := keeps_stepped h.inv (h.keeps t (List.mem_of_getElem? hk)) i
    rw [advance_of_getElem? hk]
    have other : ∀ {j : Nat} {t' : Task}, j ≠ k →
        (s.tasks.set k (s.stepped D.service i t).1)[j]? = some t' → s.tasks[j]? = some t' :=
      fun hj hjt => by rwa [List.getElem?_set_ne (Ne.symm hj)] at hjt
    have self : ∀ {t' : Task}, (s.tasks.set k (s.stepped D.service i t).1)[k]? = some t' →
        t' = (s.stepped D.service i t).1 := by
      intro t' ht'
      obtain ⟨hlt, -⟩ := List.getElem?_eq_some_iff.1 hk
      simpa [hlt, eq_comm] using ht'
    refine ⟨hi, fun t' ht' => ?_, fun {j j' u u'} hu hu' hne => ?_⟩
    · obtain ⟨j, hj⟩ := List.mem_iff_getElem?.1 ht'
      by_cases hjk : j = k
      · subst hjk; obtain rfl := self hj; exact hkeeps
      · have hj' := other hjk hj
        obtain hf | hf := h.single hj' hk hjk
        · exact keeps_of_finished hf _
        · exact (h.keeps t' (List.mem_of_getElem? hj')).meets
            (.alike (alike_stepped hf i).1 h.inv)
    · by_cases hjk : j = k
      · subst hjk
        obtain rfl := self hu
        exact (h.single hk (other (Ne.symm hne) hu') hne).imp_left fun hf => (alike_stepped hf i).2
      · by_cases hjk' : j' = k
        · subst hjk'
          obtain rfl := self hu'
          exact (h.single (other hjk hu) hk hne).imp_right fun hf => (alike_stepped hf i).2
        · exact h.single (other hjk hu) (other hjk' hu') hne

theorem Alone.arrive {s : System} (h : s.Alone D) (hidle : s.Idle) {r : Request}
    (hr : r.program.Keeps D (fun _ _ => True) s.course) :
    System.Alone D { s with tasks := s.tasks ++ [.new r] } := by
  refine ⟨h.inv, fun t ht => ?_, fun {j k t t'} hj hk hne => ?_⟩
  · obtain ht | ht := List.mem_append.1 ht
    · exact h.keeps t ht
    · obtain rfl := List.mem_singleton.1 ht; exact hr
  · -- two positions that differ are not both the last one
    have old : ∀ {n : Nat} {u : Task}, n < s.tasks.length →
        (s.tasks ++ [Task.new r])[n]? = some u → u.Finished := fun hn hu => by
      rw [List.getElem?_append_left hn] at hu
      exact hidle _ (List.mem_of_getElem? hu)
    have hj' := (List.getElem?_eq_some_iff.1 hj).1
    have hk' := (List.getElem?_eq_some_iff.1 hk).1
    simp only [List.length_append, List.length_singleton] at hj' hk'
    by_cases hlt : j < s.tasks.length
    · exact .inl (old hlt hj)
    · exact .inr (old (by omega) hk)

/-- Requests that wait for each other need not mind what others do. -/
theorem Alone.play {s : System} (h : s.Alone D) {moves : List (Move ι)}
    (hseq : s.Sequential D.service moves)
    (harrive : ∀ r, .arrive r ∈ moves → ∀ s', D.inv s' →
      r.program.Keeps D (fun _ _ => True) s') : (s.play D.service moves).Alone D := by
  induction moves generalizing s with
  | nil => exact h
  | cons m moves ih =>
    obtain ⟨hidle, hseq⟩ := hseq
    refine ih ?_ hseq fun r hr => harrive r (List.mem_cons_of_mem _ hr)
    cases m with
    | arrive r => exact h.arrive (hidle ⟨r, rfl⟩) (harrive r List.mem_cons_self _ h.inv)
    | advance k i => exact h.advance k i
    | setClock now =>
      have ha : s.course.Alike (s.course.clockAt now) := .clockAt _ _
      exact ⟨D.inv_alike ha h.inv, fun t ht => (h.keeps t ht).meets (.alike ha h.inv), h.single⟩

end System

end Patronage
