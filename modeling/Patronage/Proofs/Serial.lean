import Patronage.Proofs.Single
/-!
# Requests one after the other

A run in which every request is answered before the next one arrives and no call fails for a reason
of its own is a list of `Event`s.  A program that keeps a discipline among others keeps it here too,
and what the store and the processors hold stays from one call of a program to the next.  Main
statements:

* `Course.single_serve` — a request leaves the invariant behind;
* `Course.through_induction` — what every request keeps holds after any events;
* `Course.forall_through` — what every call keeps holds after any events.
-/

namespace Patronage

instance : (r : Request) → Decidable r.Fresh
  | .updateLevel .. => isFalse id
  | .updateSubscriber _ | .getSubscriber _ | .deleteSubscriber _ | .addPaymentMethod ..
  | .readAndUpdateLevel .. | .createReceipt .. => isTrue trivial

/-- What happens where nothing is in flight. -/
inductive Event
  | serve (rules : Rules) (r : Request)
  | setClock (now : Moment)

namespace Event

/-- Requests read the records they work on. -/
def Fresh : Event → Prop
  | .serve _ r => r.Fresh
  | .setClock _ => True

instance : (e : Event) → Decidable e.Fresh
  | .serve _ r => inferInstanceAs (Decidable r.Fresh)
  | .setClock _ => isTrue trivial

end Event

namespace Course

/-- What a request is answered that nobody interrupts, and the course after it. -/
def serve (s : Course) (rules : Rules) (r : Request) : Except Fault r.Answer × Course :=
  r.program.run (Service.inMemory.host (rules, .fine)) s

/-- A request is answered as the world by itself answers it. -/
theorem serve_eq_perform (s : Course) (rules : Rules) (r : Request) :
    ((s.serve rules r).1, (s.serve rules r).2.world) = s.world.perform rules r.program :=
  run_ask rules r.program s

/-- The course after an event. -/
def happen (s : Course) : Event → Course
  | .serve rules r => (s.serve rules r).2
  | .setClock now => s.clockAt now

/-- The course after some events. -/
def through (s : Course) (es : List Event) : Course := es.foldl happen s

end Course

/-- One request at a time, and every call answers. -/
def Discipline.serial : Discipline Rules := Discipline.single.restrict fun rules => (rules, .fine)

namespace Course

theorem single_serve {s : Course} (h : s.Single) (rules : Rules) {r : Request} (hr : r.Fresh) :
    (s.serve rules r).2.Single :=
  ((r.keeps_program hr h).run h (rules, .fine)).1

/-- What a request promises of serial runs is so once it has been answered. -/
theorem serve_of_keeps {s : Course} (h : s.Single) (rules : Rules) {r : Request}
    {post : Except Fault r.Answer → Course → Prop} (hr : r.program.Keeps .serial post s) :
    post (s.serve rules r).1 (s.serve rules r).2 :=
  (Program.Keeps.run (D := .serial) hr h rules).2

/-- What every request keeps, and nothing but the log and the clock can change, holds after any
events. -/
theorem through_induction {P : Course → Prop} (alike : ∀ {s s'}, s.Alike s' → P s → P s')
    (serve : ∀ {s} rules {r}, s.Single → P s → r.Fresh → P (s.serve rules r).2) {s : Course}
    (hs : s.Single) (hp : P s) {es : List Event} (hes : ∀ e ∈ es, e.Fresh) :
    (s.through es).Single ∧ P (s.through es) := by
  induction es generalizing s with
  | nil => exact ⟨hs, hp⟩
  | cons e es ih =>
    have hrest : ∀ e ∈ es, e.Fresh := fun e he => hes e (List.mem_cons_of_mem _ he)
    have hfresh : e.Fresh := hes e List.mem_cons_self
    cases e with
    | serve rules r => exact ih (single_serve hs rules hfresh) (serve rules hs hp hfresh) hrest
    | setClock now =>
      have ha : s.Alike (s.clockAt now) := .clockAt _ _
      exact ih (Discipline.single.inv_alike ha hs) (alike ha hp) hrest

/-- Requests that wait for each other leave every subscriber with one running subscription. -/
theorem single_through {w : World} (hw : w.Fresh) {es : List Event} (hes : ∀ e ∈ es, e.Fresh) :
    (through ⟨w, []⟩ es).Single :=
  (through_induction (P := fun _ => True) (fun _ _ => trivial) (fun _ _ _ _ _ => trivial) hw.single
    trivial hes).1

/-- What every call keeps holds after any events, fresh or not. -/
theorem forall_through {P : Course → Prop} (alike : ∀ {s s'}, s.Alike s' → P s → P s')
    (call : ∀ rules c s, P s → P (s.after rules c)) {s : Course} (h : P s) (es : List Event) :
    P (s.through es) := by
  have hl : (Discipline.keeping (fun rules => Service.inMemory (rules, .fine)) P alike).Lenient :=
    Discipline.lenient_keeping alike call
  induction es generalizing s with
  | nil => exact h
  | cons e es ih =>
    cases e with
    | serve rules r => exact ih ((hl.keeps r.program s).run h rules).1
    | setClock now => exact ih (alike (.clockAt s now) h)

end Course

namespace Manager

open Program

/-- What a call that answers does is known from the course that it meets. -/
theorem keeps_ask_serial {c : Call} {post : Except Fault c.Answer → Course → Prop} {s : Course}
    (stable : ∀ {r s s'}, s.Alike s' → post r s → post r s')
    (h : ∀ s', s.Alike s' → s'.Single → ∀ rules, (s'.after rules c).Single ∧
      post (s'.world.answer rules c).1 (s'.after rules c)) :
    (ask c).Keeps .serial post s := by
  intro s' hs rules
  obtain ⟨hsingle, hpost⟩ := h s' hs.rely hs.inv rules
  exact ⟨trivial, hsingle, fun s'' h' => stable h'.rely hpost⟩

/-- What harmless calls of some kind keep, programs that make no others keep. -/
theorem keeps_of_uses_serial {P : Call → Prop} (hP : ∀ c, P c → c.Harmless) {I : Course → Prop}
    (alike : ∀ {s s'}, s.Alike s' → I s → I s')
    (call : ∀ {s} rules {c}, P c → s.Single → I s → I (s.after rules c)) {α : Type} {p : Program α}
    (hp : p.Uses P) {s : Course} (hs : I s) : p.Keeps .serial (fun _ s' => I s') s := by
  refine Discipline.keeps_of_uses_of (D := .serial) (fun hm hI => alike hm.rely hI) ?_ hp hs
  intro rules c s' hc hsingle hI
  exact ⟨trivial, Course.Single.after hsingle rules (hP c hc), call rules hc hsingle hI⟩

end Manager

namespace Sample

/-- The rules of the catalog. -/
def rules : Rules := asShipped.1

/-- Requests one after the other. -/
def served (rs : List Request) : List Event := rs.map (.serve rules)

end Sample

end Patronage
