import Patronage.Proofs.Footprint
import Patronage.Proofs.Records
/-!
# Requests that nobody interrupts, mishaps included

A request that runs from start to end meets luck of its own at every call: a call answers, or it
fails before or after it took effect.  Where such a request leads is computed call by call.  Main
statements:

* `Course.attempt_bind_eq_ok`, `Course.attempt_within` — programs are attempted one after the other;
* `Course.attempt_of_uses` — what every call of some kind keeps, programs that make no others keep;
* `System.exists_play_eq_attempt` — whatever is attempted, a system can come to it move by move;
* `Course.registered_attempt` — whatever is attempted, the providers in use stay the same.
-/

namespace Patronage

open Log

/-- The collaborators in memory, with luck for every call. -/
def Service.lucky (rules : Rules) : Service (Call → Luck) := fun luck c s => s.ask rules (luck c) c

namespace Course

variable {α β : Type} (s : Course) (rules : Rules) (luck : Call → Luck)

/-- The result of a program that nobody interrupts, and the course after it. -/
def attempt (p : Program α) : Except Fault α × Course :=
  p.run ((Service.lucky rules).host luck) s

@[simp] theorem attempt_done (r : Except Fault α) : s.attempt rules luck (.done r) = (r, s) := rfl

@[simp] theorem attempt_ask (c : Call) :
    s.attempt rules luck (.ask c) = s.ask rules (luck c) c := rfl

theorem attempt_andThen (p : Program α) (f : Except Fault α → Program β) :
    s.attempt rules luck (p.andThen f) =
      (s.attempt rules luck p).2.attempt rules luck (f (s.attempt rules luck p).1) :=
  congrFun (Program.run_andThen ((Service.lucky rules).host luck) p f) s

/-- A program is attempted once the one before it has answered. -/
theorem attempt_bind_ok {p : Program α} {f : α → Program β} {a : α}
    (h : (s.attempt rules luck p).1 = .ok a) :
    s.attempt rules luck (p >>= f) = (s.attempt rules luck p).2.attempt rules luck (f a) := by
  show s.attempt rules luck (p.andThen _) = _
  rw [attempt_andThen, h]

/-- A program is not attempted if the one before it has failed. -/
theorem attempt_bind_error {p : Program α} {f : α → Program β} {e : Fault}
    (h : (s.attempt rules luck p).1 = .error e) :
    s.attempt rules luck (p >>= f) = (.error e, (s.attempt rules luck p).2) := by
  show s.attempt rules luck (p.andThen _) = _
  rw [attempt_andThen, h]
  rfl

/-- Both programs have answered if the bound one has. -/
theorem attempt_bind_eq_ok {p : Program α} {f : α → Program β} {b : β} :
    (s.attempt rules luck (p >>= f)).1 = .ok b ↔ ∃ a, (s.attempt rules luck p).1 = .ok a ∧
      ((s.attempt rules luck p).2.attempt rules luck (f a)).1 = .ok b := by
  constructor
  · intro h
    cases hp : (s.attempt rules luck p).1 with
    | error e =>
      rw [attempt_bind_error s rules luck hp] at h
      cases h
    | ok a => exact ⟨a, rfl, by rwa [attempt_bind_ok s rules luck hp] at h⟩
  · rintro ⟨a, hp, hf⟩
    rw [attempt_bind_ok s rules luck hp]
    exact hf

/-- The log fields bound around a program are put back. -/
theorem attempt_within (fields : Log.Fields Field) (p : Program α) :
    s.attempt rules luck (p.within fields) =
      let o := (s.within (s.world.context.bind fields)).attempt rules luck p
      (o.1, o.2.within (o.2.world.context.restore (s.world.context.save fields))) :=
  congrFun (Program.run_within ((Service.lucky rules).host luck) fields p) s

variable {s}

/-- A call answers if nothing befalls it and it is not refused. -/
theorem ask_eq_ok_iff {l : Luck} {c : Call} {a : c.Answer} :
    (s.ask rules l c).1 = .ok a ↔ l = .fine ∧ (s.world.answer rules c).1 = .ok a := by
  cases l with
  | fine => exact ⟨fun h => ⟨rfl, h⟩, And.right⟩
  | before m | after m => exact ⟨nofun, fun h => nomatch h.1⟩

/-- What calls of some kind keep, attempts that make no others keep. -/
theorem attempt_of_uses {P : Call → Prop} {I : Course → Prop}
    (alike : ∀ {s s'}, s.Alike s' → I s → I s')
    (call : ∀ {s c}, P c → I s → I (s.ask rules (luck c) c).2) {p : Program α} (hp : p.Uses P)
    (hs : I s) : I (s.attempt rules luck p).2 := by
  induction p generalizing s with
  | done r => exact hs
  | call c next ih => exact ih _ (hp.2 _) (call hp.1 hs)
  | enter fields next ih => exact ih _ (hp _) (alike (.within s _) hs)
  | leave saved next ih => exact ih hp (alike (.within s _) hs)
  | log e next ih => exact ih hp (alike (.write s e) hs)

/-- What every call keeps, every attempt keeps. -/
theorem attempt_of_calls {I : Course → Prop} (alike : ∀ {s s'}, s.Alike s' → I s → I s')
    (call : ∀ {s c}, I s → I (s.after rules c)) (p : Program α) (hs : I s) :
    I (s.attempt rules luck p).2 := by
  refine attempt_of_uses rules luck alike (fun {s c} _ hs => ?_) p.uses_any hs
  obtain h | h := s.ask_eq_or rules (luck c) c
  · rwa [h]
  · rw [h]
    exact call hs

end Course

namespace System

/-- A request that is left alone may run to its end with luck of its own at every call. -/
theorem exists_play_eq_finish_lucky (rules : Rules) (luck : Call → Luck) {s : System} {k : Nat}
    {t : Task} (h : s.tasks[k]? = some t) :
    ∃ moves, s.play .inMemory moves = s.finish (.lucky rules) luck k t := by
  -- one step leaves a task whose program is a branch of the tree
  have next : ∀ {s : System} {t : Task} (i : Rules × Luck), s.tasks[k]? = some t →
      s.stepped .inMemory i t = s.stepped (.lucky rules) luck t →
      (∃ moves, (s.advance (.lucky rules) k luck).play .inMemory moves =
        (s.advance (.lucky rules) k luck).finish (.lucky rules) luck k
          (s.stepped (.lucky rules) luck t).1) →
      ∃ moves, s.play .inMemory moves = s.finish (.lucky rules) luck k t := by
    rintro s t i h hstep ⟨moves, hmoves⟩
    have hadvance : s.step .inMemory (.advance k i) = s.advance (.lucky rules) k luck := by
      show s.advance .inMemory k i = _
      rw [advance_of_getElem? h, advance_of_getElem? h, hstep]
    exact ⟨.advance k i :: moves, by rw [play_cons, hadvance, hmoves, finish_advance h]⟩
  have stays : ∀ {s : System} {t : Task}, s.tasks[k]? = some t →
      (s.advance (.lucky rules) k luck).tasks[k]? = some (s.stepped (.lucky rules) luck t).1 := by
    intro s t h
    obtain ⟨hk, -⟩ := List.getElem?_eq_some_iff.1 h
    simp [advance_of_getElem? h, hk]
  obtain ⟨r, p, ctx⟩ := t
  induction p generalizing s ctx with
  | done x =>
    obtain ⟨hk, he⟩ := List.getElem?_eq_some_iff.1 h
    have hset : s.tasks.set k ⟨r, .done x, ctx⟩ = s.tasks := by rw [← he, List.set_getElem_self]
    exact ⟨[], (congrArg (System.mk s.course) hset).symm⟩
  | call c rest ih => exact next (rules, luck c) h rfl (ih _ _ (stays h))
  | enter fields rest ih => exact next (rules, .fine) h rfl (ih _ _ (stays h))
  | leave saved rest ih => exact next (rules, .fine) h rfl (ih _ (stays h))
  | log e rest ih => exact next (rules, .fine) h rfl (ih _ (stays h))

/-- Whatever is attempted, a system can come to it move by move. -/
theorem exists_play_eq_attempt (s : System) (rules : Rules) (luck : Call → Luck) (r : Request) :
    ∃ moves, (s.play .inMemory moves).course =
      ((s.course.within .empty).attempt rules luck r.program).2.within s.course.world.context := by
  have harrive : (s.step .inMemory (.arrive r)).tasks[s.tasks.length]? = some (.new r) := by
    simp [step]
  obtain ⟨moves, hmoves⟩ := exists_play_eq_finish_lucky rules luck harrive
  exact ⟨.arrive r :: moves, congrArg System.course hmoves⟩

end System

/-- A call changes what processors hold and not whose processors are in use. -/
theorem World.isSome_find?_answer (rules : Rules) (w : World) (c : Call) (p : Provider) :
    ((w.answer rules c).2.registry.find? p).isSome = (w.registry.find? p).isSome := by
  cases w.shift_answer rules c with
  | same registry => rw [registry]
  | «at» q e e' t find _ registry =>
    rw [registry, Registry.find?_set]
    split
    · rename_i hq
      rw [← hq, find]
      rfl
    · rfl

namespace Course

/-- Whatever is attempted, the providers in use stay the same. -/
theorem registered_attempt {α : Type} (s : Course) (rules : Rules) (luck : Call → Luck)
    (p : Program α) (q : Provider) :
    ((s.attempt rules luck p).2.world.registry.find? q).isSome =
      (s.world.registry.find? q).isSome := by
  refine attempt_of_calls (I := fun s' => (s'.world.registry.find? q).isSome =
    (s.world.registry.find? q).isSome) rules luck ?_ ?_ p rfl
  · intro s₁ s₂ ha h
    rwa [ha.world.registry]
  · intro s₁ c h
    exact (World.isSome_find?_answer rules s₁.world c q).trans h

/-- Calls that write nothing leave the store as it is. -/
theorem store_ask (s : Course) (rules : Rules) (l : Luck) {c : Call} (hc : ¬c.Stores) :
    (s.ask rules l c).2.world.store = s.world.store := by
  obtain h | h := s.ask_eq_or rules l c
  · rw [h]
  · rw [h]
    exact World.store_answer rules hc

end Course

/-! ### One request after the other -/

/-- What happens where nothing is in flight, mishaps included. -/
inductive Trial
  | request (rules : Rules) (luck : Call → Luck) (r : Request)
  | setClock (now : Moment)

namespace Course

/-- The course after a trial. -/
def pass (s : Course) : Trial → Course
  | .request rules luck r => (s.attempt rules luck r.program).2
  | .setClock now => s.clockAt now

/-- The course after some trials. -/
def passes (s : Course) (ts : List Trial) : Course := ts.foldl pass s

@[simp] theorem passes_nil (s : Course) : s.passes [] = s := rfl

@[simp] theorem passes_cons (s : Course) (t : Trial) (ts : List Trial) :
    s.passes (t :: ts) = (s.pass t).passes ts := rfl

end Course

end Patronage
