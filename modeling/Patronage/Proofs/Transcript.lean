import Patronage.Proofs.Records
/-!
# What requests in flight ask and hear

A run leaves a transcript: which request asked what, of which world, and what it was answered.
`Program.Tells` says of a program that each of its calls, and its result, suits what it has heard
before; it follows the tree of the program and knows nothing of other programs.  What holds of every
program by itself then holds of every request in flight with its own part of the transcript.  Main
statements:

* `Program.Tells.heard` — what programs tell holds of what they hear where nobody interrupts them;
* `System.Recorded.play` — what programs tell by themselves they tell in flight;
* `System.mem_transcript` — an exchange of a run is one move of it;
* `System.store_play`, `System.backed_play` — records that were handed out are stored still.
-/

namespace Patronage

/-- A call with what it was answered. -/
structure Heard where
  call : Call
  answer : Except Fault call.Answer

/-- The record that an answer hands out, with the identity that it was asked for. -/
def Heard.record? : Heard → Option (Bytes × Subscriber)
  | ⟨.lookUp user _, .ok (.found s)⟩ => some (user, s)
  | ⟨.create user .., .ok (some s)⟩ => some (user, s)
  | ⟨.setCustomer user .., .ok s⟩ => some (user, s)
  | _ => none

/-- Whoever hands out a record has answered. -/
theorem Heard.eq_ok_of_record? {x : Heard} {user : Bytes} {r : Subscriber}
    (h : x.record? = some (user, r)) : ∃ a, x.answer = .ok a := by
  obtain ⟨c, a⟩ := x
  cases a with
  | error f => cases c <;> cases h
  | ok a => exact ⟨a, rfl⟩

/-- A record that is handed out is stored then. -/
theorem World.find?_of_record? {rules : Rules} {w : World} {x : Heard}
    (hx : (w.answer rules x.call).1 = x.answer) {user : Bytes} {r : Subscriber}
    (hr : x.record? = some (user, r)) :
    (w.answer rules x.call).2.store.find? user = some r := by
  obtain ⟨c, a⟩ := x
  change (w.answer rules c).1 = a at hx
  subst hx
  show (w.answer rules c).2.store.find? user = some r
  cases c with
  | lookUp user' hmac =>
    change Heard.record? ⟨.lookUp user' hmac, .ok (w.store.lookup user' hmac)⟩ = _ at hr
    cases hl : w.store.lookup user' hmac with
    | found s =>
      rw [hl] at hr
      obtain ⟨rfl, rfl⟩ := Prod.mk.inj (Option.some.inj hr)
      exact (Store.lookup_eq_found.1 hl).1
    | notStored | wrongPassword =>
      rw [hl] at hr
      cases hr
  | create user' password now =>
    change Heard.record? ⟨.create user' password now, (w.store.create user' password now).answer⟩ =
      _ at hr
    have hstore : (w.answer rules (.create user' password now)).2.store =
        (w.store.create user' password now).state := store_writeAll _ _
    rw [hstore]
    cases ha : (w.store.create user' password now).answer with
    | error f =>
      rw [ha] at hr
      cases hr
    | ok o =>
      rw [ha] at hr
      cases o with
      | none => cases hr
      | some s =>
        obtain ⟨rfl, rfl⟩ := Prod.mk.inj (Option.some.inj hr)
        rw [Store.find?_create]
        obtain ⟨hs, -⟩ | ⟨hnone, rfl⟩ := Store.create_eq_some.1 ha
        · simp [hs]
        · simp [hnone]
  | setCustomer user' c now =>
    change Heard.record? ⟨.setCustomer user' c now, (w.store.setCustomer user' c now).answer⟩ =
      _ at hr
    have hstore : (w.answer rules (.setCustomer user' c now)).2.store =
        (w.store.setCustomer user' c now).state := store_writeAll _ _
    rw [hstore]
    unfold Store.setCustomer at hr ⊢
    cases hs : w.store.find? user' with
    | none =>
      rw [Store.update_eq_fail hs] at hr
      cases hr
    | some s =>
      simp only [Store.update, hs, Outcome.ok] at hr
      obtain ⟨rfl, rfl⟩ := Prod.mk.inj (Option.some.inj hr)
      rw [Store.get?_update, if_pos rfl, hs]
      rfl
  | _ => cases hr

/-- A call of a request in flight. -/
structure Exchange where
  /-- The position of the request. -/
  task : Nat
  /-- The world as the call met it. -/
  met : World
  heard : Heard

/-- What the request at a position asked and heard. -/
def heardBy (k : Nat) (es : List Exchange) : List Heard :=
  (es.filter (·.task = k)).map (·.heard)

theorem heardBy_append (k : Nat) (es es' : List Exchange) :
    heardBy k (es ++ es') = heardBy k es ++ heardBy k es' := by
  simp [heardBy]

theorem mem_heardBy {k : Nat} {es : List Exchange} {x : Heard} :
    x ∈ heardBy k es ↔ ∃ e ∈ es, e.task = k ∧ e.heard = x := by
  simp [heardBy, and_assoc]

/-! ### Programs -/

/-- No call is out of place, whatever has been heard. -/
abbrev Anything (_ : List Heard) (_ : Call) : Prop := True

namespace Program

variable {α β : Type}

/-- Whatever it hears, each call of the program suits what it has heard before, and so does its
result. -/
def Tells (P : List Heard → Call → Prop) (Q : List Heard → Except Fault α → Prop) :
    Program α → List Heard → Prop
  | .done r, h => Q h r
  | .call c next, h => P h c ∧ ∀ a, Tells P Q (next a) (h ++ [⟨c, a⟩])
  | .enter _ next, h => ∀ saved, Tells P Q (next saved) h
  | .leave _ next, h => Tells P Q next h
  | .log _ next, h => Tells P Q next h

/-- The program makes no more calls and ends with a given result. -/
def Settles (r : Except Fault α) : Program α → Prop
  | .done r' => r' = r
  | .call .. => False
  | .enter _ next => ∀ saved, Settles r (next saved)
  | .leave _ next => Settles r next
  | .log _ next => Settles r next

variable {P : List Heard → Call → Prop} {Q : List Heard → Except Fault α → Prop} {h : List Heard}

theorem tells_ask {c : Call} {Q : List Heard → Except Fault c.Answer → Prop} (hc : P h c)
    (hq : ∀ a, Q (h ++ [⟨c, a⟩]) a) : (ask c).Tells P Q h := ⟨hc, hq⟩

theorem Tells.mono {Q' : List Heard → Except Fault α → Prop} {p : Program α} (hp : p.Tells P Q h)
    (hq : ∀ h r, Q h r → Q' h r) : p.Tells P Q' h := by
  induction p generalizing h with
  | done r => exact hq h r hp
  | call c next ih => exact ⟨hp.1, fun a => ih a (hp.2 a)⟩
  | enter fields next ih => exact fun saved => ih saved (hp saved)
  | leave saved next ih => exact ih hp
  | log e next ih => exact ih hp

theorem Tells.andThen {R : List Heard → Except Fault β → Prop} {p : Program α}
    {f : Except Fault α → Program β} (hp : p.Tells P Q h)
    (hf : ∀ h r, Q h r → (f r).Tells P R h) : (p.andThen f).Tells P R h := by
  induction p generalizing h with
  | done r => exact hf h r hp
  | call c next ih => exact ⟨hp.1, fun a => ih a (hp.2 a)⟩
  | enter fields next ih => exact fun saved => ih saved (hp saved)
  | leave saved next ih => exact ih hp
  | log e next ih => exact ih hp

/-- A fault of the first program is the result of both. -/
theorem Tells.bind {R : List Heard → Except Fault β → Prop} {p : Program α} {f : α → Program β}
    (hp : p.Tells P Q h) (herror : ∀ h e, Q h (.error e) → R h (.error e))
    (hf : ∀ h a, Q h (.ok a) → (f a).Tells P R h) : (p >>= f).Tells P R h := by
  refine Tells.andThen hp fun h r hr => ?_
  cases r with
  | error e => exact herror h e hr
  | ok a => exact hf h a hr

theorem Tells.within {p : Program α} (hp : p.Tells P Q h) (fields : Log.Fields Log.Field) :
    (p.within fields).Tells P Q h :=
  fun _ => hp.andThen fun _ _ hr => hr

/-- What the answers to calls of some kind keep of what has been heard, programs that make no others
keep. -/
theorem tells_keeping {K : Call → Prop} {I : List Heard → Prop} {p : Program α} (hp : p.Uses K)
    (hK : ∀ h c, K c → I h → P h c ∧ ∀ a, I (h ++ [⟨c, a⟩])) (hi : I h) :
    p.Tells P (fun h _ => I h) h := by
  induction p generalizing h with
  | done r => exact hi
  | call c next ih =>
    obtain ⟨hc, hkept⟩ := hK h c hp.1 hi
    exact ⟨hc, fun a => ih a (hp.2 a) (hkept a)⟩
  | enter fields next ih => exact fun saved => ih saved (hp saved) hi
  | leave saved next ih => exact ih hp hi
  | log e next ih => exact ih hp hi

/-- Calls of some kind suit whatever has been heard, and nothing heard is forgotten. -/
theorem tells_subset {K : Call → Prop} {p : Program α} (hp : p.Uses K)
    (hK : ∀ h c, K c → P h c) {h₀ : List Heard} (hh : h₀ ⊆ h) :
    p.Tells P (fun h _ => h₀ ⊆ h) h :=
  tells_keeping hp (fun h c hc hh => ⟨hK h c hc, fun _ _ hx => List.mem_append_left _ (hh hx)⟩) hh

theorem tells_of_uses {K : Call → Prop} {p : Program α} (hp : p.Uses K)
    (hK : ∀ h c, K c → P h c) : p.Tells P (fun _ _ => True) h :=
  tells_keeping hp (fun h c hc _ => ⟨hK h c hc, fun _ => trivial⟩) trivial

/-- A program that may make no more calls, and whose result what it has heard decides, settles. -/
theorem Tells.settles {r : Except Fault α} {p : Program α} (hp : p.Tells P Q h)
    (hP : ∀ c, ¬P h c) (hQ : ∀ r', Q h r' → r' = r) : p.Settles r := by
  induction p with
  | done r' => exact hQ r' hp
  | call c next ih => exact absurd hp.1 (hP c)
  | enter fields next ih => exact fun saved => ih saved (hp saved)
  | leave saved next ih => exact ih hp
  | log e next ih => exact ih hp

/-- What the program asks and hears where nobody interrupts it. -/
def heard {ι : Type} (v : Service ι) (i : ι) : Program α → Course → List Heard
  | .done _, _ => []
  | .call c next, s =>
    let o := (v.host i).call c s
    ⟨c, o.1⟩ :: (next o.1).heard v i o.2
  | .enter fields next, s =>
    let o := (v.host i).enter fields s
    (next o.1).heard v i o.2
  | .leave saved next, s => next.heard v i ((v.host i).leave saved s).2
  | .log e next, s => next.heard v i ((v.host i).log e s).2

/-- What a program tells holds of what it hears and of its result where nobody interrupts it. -/
theorem Tells.heard {ι : Type} (v : Service ι) (i : ι) {p : Program α} (hp : p.Tells P Q h)
    (s : Course) : Q (h ++ p.heard v i s) (p.run (v.host i) s).1 := by
  induction p generalizing h s with
  | done r =>
    rw [Program.heard, List.append_nil]
    exact hp
  | call c next ih =>
    rw [Program.heard, List.append_cons]
    exact ih _ (hp.2 _) _
  | enter fields next ih => exact ih _ (hp _) _
  | leave saved next ih => exact ih hp _
  | log e next ih => exact ih hp _

end Program

open Program in
/-- What a write to the store tells stays true once its fault is classified. -/
theorem Manager.tells_persist {α : Type} {P : List Heard → Call → Prop}
    {Q : List Heard → Except Fault α → Prop} {p : Program α} {h : List Heard} (hp : p.Tells P Q h)
    (hq : ∀ h e, Q h (.error e) → ∀ e', Q h (.error e')) : (persist p).Tells P Q h := by
  refine hp.andThen fun h r hr => ?_
  split
  · exact hq h _ hr _
  · exact hr

/-! ### Systems -/

namespace System

variable {ι : Type} (v : Service ι)

/-- The call that a move makes, if it makes one. -/
def exchange? (s : System) : Move ι → Option Exchange
  | .advance k i =>
    match s.tasks[k]? with
    | some ⟨_, .call c _, ctx⟩ =>
      some ⟨k, (s.course.within ctx).world, c, (v i c (s.course.within ctx)).1⟩
    | _ => none
  | .arrive _ | .setClock _ => none

/-- The calls that some moves make. -/
def transcript (s : System) : List (Move ι) → List Exchange
  | [] => []
  | m :: moves => (s.exchange? v m).toList ++ transcript (s.step v m) moves

theorem transcript_append (s : System) (moves later : List (Move ι)) :
    s.transcript v (moves ++ later) =
      s.transcript v moves ++ (s.play v moves).transcript v later := by
  induction moves generalizing s with
  | nil => rfl
  | cons m moves ih => simp only [List.cons_append, transcript, ih, play_cons, List.append_assoc]

variable {v} {s : System} {m : Move ι} {e : Exchange}

/-- An exchange of a run is one move of it. -/
theorem mem_transcript {moves : List (Move ι)} :
    e ∈ s.transcript v moves ↔ ∃ before m later, moves = before ++ m :: later ∧
      (s.play v before).exchange? v m = some e := by
  induction moves generalizing s with
  | nil => simp [transcript]
  | cons m moves ih =>
    rw [transcript, List.mem_append, Option.mem_toList, ih]
    constructor
    · rintro (he | ⟨before, m', later, rfl, he⟩)
      · exact ⟨[], m, moves, rfl, he⟩
      · exact ⟨m :: before, m', later, rfl, he⟩
    · rintro ⟨before, m', later, heq, he⟩
      cases before with
      | nil =>
        obtain ⟨rfl, rfl⟩ := List.cons.inj heq
        exact .inl he
      | cons m₀ before =>
        obtain ⟨rfl, rfl⟩ := List.cons.inj heq
        exact .inr ⟨before, m', later, rfl, he⟩

/-- A call is made by a request whose program goes on with the answer. -/
theorem exchange?_eq_some (h : s.exchange? v m = some e) :
    ∃ i r next ctx, m = .advance e.task i ∧
      s.tasks[e.task]? = some ⟨r, .call e.heard.call next, ctx⟩ ∧
      e.met = (s.course.within ctx).world ∧
      e.heard.answer = (v i e.heard.call (s.course.within ctx)).1 := by
  cases m with
  | arrive | setClock => cases h
  | advance k i =>
    unfold exchange? at h
    dsimp only at h
    split at h
    · rename_i r c next ctx hk
      obtain rfl := Option.some.inj h
      exact ⟨i, r, next, ctx, rfl, hk, rfl, rfl⟩
    · cases h

/-- What a request has heard was answered at one of its moves, by the world that its call met. -/
theorem answered_of_heard {moves : List (Move (Rules × Luck))} {k : Nat} {c : Call} {a : c.Answer}
    (h : ⟨c, .ok a⟩ ∈ heardBy k (s.transcript .inMemory moves)) :
    ∃ e ∈ s.transcript .inMemory moves, e.task = k ∧ e.heard = ⟨c, .ok a⟩ ∧
      ∃ i, .advance k i ∈ moves ∧ (e.met.answer i.1 c).1 = .ok a := by
  obtain ⟨⟨task, met, heard⟩, he, rfl, rfl⟩ := mem_heardBy.1 h
  obtain ⟨before, m, later, hmoves, hm⟩ := mem_transcript.1 he
  obtain ⟨i, r, next, ctx, rfl, -, hmet, hanswer⟩ := exchange?_eq_some hm
  obtain ⟨hok, -⟩ := Course.ask_eq_ok hanswer.symm
  refine ⟨_, he, rfl, rfl, i, by simp [hmoves], ?_⟩
  dsimp only at hmet
  rw [hmet]
  exact hok

/-- The request at a position. -/
def request? (s : System) (k : Nat) : Option Request := s.tasks[k]?.map (·.request)

theorem request?_of_getElem? {k : Nat} {t : Task} (hk : s.tasks[k]? = some t) :
    s.request? k = some t.request := by
  simp [request?, hk]

/-- A request stays where it is. -/
theorem request?_step {k : Nat} {r : Request} (h : s.request? k = some r) (m : Move ι) :
    (s.step v m).request? k = some r := by
  obtain ⟨t, hk, rfl⟩ := Option.map_eq_some_iff.1 h
  obtain ⟨hlt, -⟩ := List.getElem?_eq_some_iff.1 hk
  cases m with
  | arrive r =>
    refine request?_of_getElem? ?_
    simp only [step]
    rwa [List.getElem?_append_left hlt]
  | setClock now => exact h
  | advance j i =>
    cases hj : s.tasks[j]? with
    | none => simpa [step, advance, hj] using h
    | some u =>
      simp only [step, advance_of_getElem? hj, request?]
      by_cases hjk : j = k
      · subst hjk
        obtain rfl := Option.some.inj (hj.symm.trans hk)
        rw [List.getElem?_set_self hlt]
        rfl
      · rw [List.getElem?_set_ne hjk]
        exact h

theorem request?_play {k : Nat} {r : Request} (h : s.request? k = some r)
    (moves : List (Move ι)) : (s.play v moves).request? k = some r := by
  induction moves generalizing s with
  | nil => exact h
  | cons m moves ih => exact ih (request?_step h m)

/-! ### What is told in flight -/

variable {P : Request → List Heard → Call → Prop}
  {Q : (r : Request) → List Heard → Except Fault r.Answer → Prop} {es : List Exchange}

variable (P Q) in
/-- Every request in flight goes on as it should after what it has heard. -/
structure Recorded (s : System) (es : List Exchange) : Prop where
  known : ∀ e ∈ es, e.task < s.tasks.length
  tells : ∀ {k : Nat} {t : Task}, s.tasks[k]? = some t →
    t.rest.Tells (P t.request) (Q t.request) (heardBy k es)

theorem Recorded.arrive (h : s.Recorded P Q es) {r : Request}
    (hr : r.program.Tells (P r) (Q r) []) :
    System.Recorded P Q { s with tasks := s.tasks ++ [.new r] } es := by
  refine ⟨fun e he => ?_, fun {k t} hk => ?_⟩
  · have := h.known e he
    simp only [List.length_append, List.length_singleton]
    omega
  · by_cases hlt : k < s.tasks.length
    · rw [List.getElem?_append_left hlt] at hk
      exact h.tells hk
    · -- whoever has just arrived has heard nothing
      have hnone : heardBy k es = [] := by
        rw [List.eq_nil_iff_forall_not_mem]
        intro x hx
        obtain ⟨e, he, rfl, -⟩ := mem_heardBy.1 hx
        exact hlt (h.known e he)
      rw [List.getElem?_append_right (by omega), List.getElem?_singleton] at hk
      split at hk
      · obtain rfl := Option.some.inj hk
        rw [hnone]
        exact hr
      · cases hk

theorem Recorded.advance (h : s.Recorded P Q es) (k : Nat) (i : ι) :
    (s.advance v k i).Recorded P Q (es ++ (s.exchange? v (.advance k i)).toList) := by
  cases hk : s.tasks[k]? with
  | none => simpa [System.advance, exchange?, hk] using h
  | some t =>
    obtain ⟨r, p, ctx⟩ := t
    have htells : p.Tells (P r) (Q r) (heardBy k es) := h.tells hk
    obtain ⟨hlt, -⟩ := List.getElem?_eq_some_iff.1 hk
    rw [advance_of_getElem? hk]
    -- the request that took its step goes on with what it heard, and all others as before
    have stepped : ∀ {new : List Exchange} {t' : Task} {s' : Course}, (∀ e ∈ new, e.task = k) →
        t'.rest.Tells (P t'.request) (Q t'.request) (heardBy k es ++ heardBy k new) →
        System.Recorded P Q ⟨s', s.tasks.set k t'⟩ (es ++ new) := by
      intro new t' s' hnew ht'
      refine ⟨fun e he => ?_, fun {j u} hj => ?_⟩
      · rw [List.length_set]
        obtain he | he := List.mem_append.1 he
        · exact h.known e he
        · rw [hnew e he]
          exact hlt
      · rw [heardBy_append]
        by_cases hjk : j = k
        · subst hjk
          rw [List.getElem?_set_self hlt] at hj
          obtain rfl := Option.some.inj hj
          exact ht'
        · have hnone : heardBy j new = [] := by
            rw [List.eq_nil_iff_forall_not_mem]
            intro x hx
            obtain ⟨e, he, hej, -⟩ := mem_heardBy.1 hx
            exact hjk (hej.symm.trans (hnew e he))
          rw [List.getElem?_set_ne (Ne.symm hjk)] at hj
          rw [hnone, List.append_nil]
          exact h.tells hj
    have quiet : ∀ {t' : Task} {s' : Course}, s.exchange? v (.advance k i) = none →
        t'.rest.Tells (P t'.request) (Q t'.request) (heardBy k es) →
        System.Recorded P Q ⟨s', s.tasks.set k t'⟩
          (es ++ (s.exchange? v (.advance k i)).toList) := by
      intro t' s' hnone ht'
      rw [hnone]
      exact stepped (fun _ he => absurd he List.not_mem_nil) (by simpa [heardBy] using ht')
    cases p with
    | done x => exact quiet (by simp [exchange?, hk]) htells
    | enter fields next => exact quiet (by simp [exchange?, hk]) (htells _)
    | leave saved next => exact quiet (by simp [exchange?, hk]) htells
    | log e next => exact quiet (by simp [exchange?, hk]) htells
    | call c next =>
      have hcall : s.exchange? v (.advance k i) = some
          ⟨k, (s.course.within ctx).world, c, (v i c (s.course.within ctx)).1⟩ := by
        simp [exchange?, hk]
      rw [hcall]
      refine stepped (by simp) ?_
      have hheard : heardBy k [⟨k, (s.course.within ctx).world, c,
          (v i c (s.course.within ctx)).1⟩] = [⟨c, (v i c (s.course.within ctx)).1⟩] := by
        simp [heardBy]
      rw [Option.toList_some, hheard]
      exact htells.2 _

/-- What programs tell by themselves they tell in flight. -/
theorem Recorded.play (hprogram : ∀ r : Request, r.program.Tells (P r) (Q r) [])
    (h : s.Recorded P Q es) (moves : List (Move ι)) :
    (s.play v moves).Recorded P Q (es ++ s.transcript v moves) := by
  induction moves generalizing s es with
  | nil => simpa [transcript] using h
  | cons m moves ih =>
    rw [transcript, ← List.append_assoc]
    refine ih ?_
    cases m with
    | arrive r =>
      show System.Recorded P Q { s with tasks := s.tasks ++ [.new r] } (es ++ [])
      rw [List.append_nil]
      exact h.arrive (hprogram r)
    | advance k i => exact h.advance k i
    | setClock now => simpa [exchange?] using ⟨h.known, h.tells⟩

/-- A run from the start is recorded in its transcript. -/
theorem recorded_play (hprogram : ∀ r : Request, r.program.Tells (P r) (Q r) []) (w : World)
    (moves : List (Move ι)) :
    ((start w).play v moves).Recorded P Q ((start w).transcript v moves) := by
  have hstart : (start w).Recorded P Q [] :=
    ⟨fun _ he => absurd he List.not_mem_nil, fun {k t} hk => by simp [start] at hk⟩
  exact hstart.play hprogram moves

/-- A call in flight suits what its request has heard before. -/
theorem Recorded.suits (h : s.Recorded P Q es) (he : s.exchange? v m = some e) :
    ∃ r, s.request? e.task = some r ∧ P r (heardBy e.task es) e.heard.call := by
  obtain ⟨i, r, next, ctx, -, hk, -, -⟩ := exchange?_eq_some he
  exact ⟨r, request?_of_getElem? hk, (h.tells hk).1⟩

/-! ### What the store keeps in flight -/

/-- A move asks the store for one operation at most. -/
theorem store_step (s : System) (m : Move (Rules × Luck)) :
    (s.step .inMemory m).course.world.store = s.course.world.store ∨
      ∃ op, (s.step .inMemory m).course.world.store = (s.course.world.store.apply op).state := by
  cases m with
  | arrive | setClock => exact .inl rfl
  | advance k i =>
    cases hk : s.tasks[k]? with
    | none => exact .inl (by simp [step, advance, hk])
    | some t =>
      obtain ⟨r, p, ctx⟩ := t
      simp only [step, advance_of_getElem? hk]
      cases p with
      | done | enter | leave | log => exact .inl rfl
      | call c next =>
        show (Course.ask i.1 i.2 c (s.course.within ctx)).2.world.store = _ ∨
          ∃ op, (Course.ask i.1 i.2 c (s.course.within ctx)).2.world.store = _
        obtain h | h := (s.course.within ctx).ask_eq_or i.1 i.2 c
        · exact .inl (by rw [h]; rfl)
        · rw [h]
          exact World.store_answer_cases i.1 (s.course.within ctx).world c

/-- Moves ask the store for some operations. -/
theorem store_play (s : System) (moves : List (Move (Rules × Luck))) :
    ∃ ops, (s.play .inMemory moves).course.world.store = s.course.world.store.run ops := by
  induction moves generalizing s with
  | nil => exact ⟨[], rfl⟩
  | cons m moves ih =>
    obtain ⟨ops, hops⟩ := ih (s.step .inMemory m)
    rw [play_cons, hops]
    obtain h | ⟨op, h⟩ := s.store_step m
    · exact ⟨ops, by rw [h]⟩
    · exact ⟨op :: ops, by rw [h, Store.run_cons]⟩

/-- The course after a call, the log fields apart, is what the call left. -/
theorem course_step {m : Move (Rules × Luck)} (h : s.exchange? .inMemory m = some e) :
    ∃ rules luck ctx, e.met = (s.course.within ctx).world ∧
      e.heard.answer = ((s.course.within ctx).ask rules luck e.heard.call).1 ∧
      ((s.course.within ctx).ask rules luck e.heard.call).2.Alike (s.step .inMemory m).course := by
  obtain ⟨i, r, next, ctx, rfl, hk, hmet, hanswer⟩ := exchange?_eq_some h
  refine ⟨i.1, i.2, ctx, hmet, hanswer, ?_⟩
  simp only [step, advance_of_getElem? hk]
  exact .within _ _

/-- A record that was handed out is stored. -/
theorem find?_of_exchange {m : Move (Rules × Luck)} (h : s.exchange? .inMemory m = some e)
    {user : Bytes} {r : Subscriber} (hr : e.heard.record? = some (user, r)) :
    (s.step .inMemory m).course.world.store.find? user = some r := by
  obtain ⟨rules, luck, ctx, -, hanswer, halike⟩ := course_step h
  obtain ⟨a, ha⟩ := Heard.eq_ok_of_record? hr
  obtain ⟨hworld, hafter⟩ := Course.ask_eq_ok (hanswer.symm.trans ha)
  rw [halike.world.store, hafter]
  exact World.find?_of_record? (x := e.heard) (hworld.trans ha.symm) hr

/-- Records that were handed out are the subscribers' whose identity was asked for, and these are
stored still. -/
def Backed (w : World) (es : List Exchange) : Prop :=
  ∀ e ∈ es, ∀ {user r}, e.heard.record? = some (user, r) →
    r.user = user ∧ ∃ r', w.store.find? user = some r' ∧ r.Continues r'

/-- Along a run every record that was handed out stays backed. -/
theorem backed_play (hs : s.course.world.store.Valid) {es : List Exchange}
    (h : Backed s.course.world es) (moves : List (Move (Rules × Luck))) :
    (s.play .inMemory moves).course.world.store.Valid ∧
      Backed (s.play .inMemory moves).course.world (es ++ s.transcript .inMemory moves) := by
  induction moves generalizing s es with
  | nil => exact ⟨hs, by simpa [transcript] using h⟩
  | cons m moves ih =>
    obtain ⟨ops, hops⟩ := s.store_play [m]
    rw [play_cons, play_nil] at hops
    rw [transcript, ← List.append_assoc]
    refine ih (hops ▸ hs.run ops) fun e he user r hr => ?_
    obtain he | he := List.mem_append.1 he
    · obtain ⟨huser, r₁, hr₁, h₁⟩ := h e he hr
      obtain ⟨r₂, hr₂, h₂⟩ := Store.continues_run hr₁ ops
      exact ⟨huser, r₂, hops ▸ hr₂, h₁.trans h₂⟩
    · have hfind := find?_of_exchange (Option.mem_toList.1 he) hr
      exact ⟨(hops ▸ hs.run ops).user hfind, r, hfind, .refl r⟩

end System

end Patronage
