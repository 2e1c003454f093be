import Patronage.Settings.Shipped
import Patronage.World
/-!
# Requests in flight

Requests arrive at any time and their programs take turns: between two calls of one program any
number of calls of others may run.  A `System` is the world with the requests in flight, and a list
of `Move`s says who goes next.  What a call answers is left to a `Service`; `Course.ask` is the
service of the collaborators in memory, in which calls may also fail for reasons of their own,
before or after they took effect.  Main statements:

* `Program.run_step` — a program runs as its first step and then the rest;
* `Course.run_ask` — without mishaps a program runs as it does on the world;
* `System.exists_play_eq_finish` — a request that is left alone runs from start to end.
-/

namespace Patronage

open Log Manager

/-- A request to the manager. -/
inductive Request
  | updateSubscriber (c : Credentials)
  | getSubscriber (c : Credentials)
  | deleteSubscriber (c : Credentials)
  | addPaymentMethod (c : Credentials) (p : Provider) (platform : Platform)
  /-- A change of level with a record `s`, wherever that was read. -/
  | updateLevel (c : Credentials) (s : Subscriber) (p : Provider) (choice : LevelChoice)
  /-- A change of level that first reads the subscriber's own record. -/
  | readAndUpdateLevel (c : Credentials) (p : Provider) (choice : LevelChoice)
  | createReceipt (c : Credentials) (bytes : Bytes)

namespace Request

/-- What a request answers unless it fails. -/
abbrev Answer : Request → Type
  | .getSubscriber _ => Subscriber
  | .addPaymentMethod .. => String
  | .createReceipt .. => Receipt
  | .updateSubscriber _ | .deleteSubscriber _ | .updateLevel .. | .readAndUpdateLevel .. => Unit

/-- The program of a request. -/
def program : (r : Request) → Program r.Answer
  | .updateSubscriber c => Manager.updateSubscriber c
  | .getSubscriber c => Manager.getSubscriber c
  | .deleteSubscriber c => Manager.deleteSubscriber c
  | .addPaymentMethod c p platform => Manager.addPaymentMethod c p platform
  | .updateLevel c s p choice => Manager.updateLevel c s p choice
  | .readAndUpdateLevel c p choice => do
    let s ← Manager.getSubscriber c
    Manager.updateLevel c s p choice
  | .createReceipt c bytes => Manager.createReceipt c bytes

end Request

/-! ### Steps of a program -/

namespace Program

variable {α : Type} {m : Type → Type} [Monad m]

/-- The first step of a program; what has ended stays as it is. -/
def step (host : Host m) : Program α → m (Program α)
  | .done r => pure (.done r)
  | .call c next => do return next (← host.call c)
  | .enter fields next => do return next (← host.enter fields)
  | .leave saved next => do
    host.leave saved
    return next
  | .log e next => do
    host.log e
    return next

/-- A program runs as its first step and then the rest. -/
theorem run_step [LawfulMonad m] (host : Host m) (p : Program α) :
    p.run host = p.step host >>= fun rest => rest.run host := by
  cases p <;> simp [run, step]

end Program

/-! ### What calls answer -/

/-- A world with the calls that took effect on it so far, each with the world that it met. -/
structure Course where
  world : World
  past : List (World × Call)

/-- How calls are answered; the answer may hang on a choice from outside. -/
abbrev Service (ι : Type) := ι → (c : Call) → Course → Except Fault c.Answer × Course

/-- A fault from outside, which does not claim that a resource is missing. -/
structure Mishap where
  fault : Fault
  honest : ∀ e, fault = .processor e → e.code ≠ ProcessorError.resourceMissing

/-- What befalls a call. -/
inductive Luck
  | fine
  /-- The call fails and has no effect. -/
  | before (m : Mishap)
  /-- The call takes effect and fails then. -/
  | after (m : Mishap)

namespace Course

/-- The course within other log fields. -/
def within (s : Course) (ctx : Context Field) : Course :=
  { s with world := { s.world with context := ctx } }

/-- The course with the clock set. -/
def clockAt (s : Course) (now : Moment) : Course :=
  { s with world := { s.world with clock := now } }

/-- What the collaborators in memory answer under some luck. -/
def ask (rules : Rules) (luck : Luck) (c : Call) (s : Course) : Except Fault c.Answer × Course :=
  let o := s.world.answer rules c
  let s' : Course := ⟨o.2, s.past ++ [(s.world, c)]⟩
  match luck with
  | .fine => (o.1, s')
  | .before m => (.error m.fault, s)
  | .after m => (.error m.fault, s')

end Course

namespace Service

variable {ι : Type}

/-- The host of a service; log fields and events are the course's own. -/
def host (v : Service ι) (i : ι) : Host (StateM Course) where
  call c := fun s => v i c s
  enter fields := fun s => (s.world.context.save fields, s.within (s.world.context.bind fields))
  leave saved := fun s => ((), s.within (s.world.context.restore saved))
  log e := fun s => ((), { s with world := s.world.write e })

/-- The service of the collaborators in memory. -/
def inMemory : Service (Rules × Luck) := fun i => Course.ask i.1 i.2

end Service

/-- Without mishaps a program runs as it does on the world. -/
theorem Course.run_ask {α : Type} (rules : Rules) (p : Program α) (s : Course) :
    ((p.run (Service.inMemory.host (rules, .fine)) s).1,
      (p.run (Service.inMemory.host (rules, .fine)) s).2.world) =
      World.perform rules p s.world := by
  induction p generalizing s with
  | done r => rfl
  | call c next ih => exact ih _ _
  | enter fields next ih => exact ih _ _
  | leave saved next ih => exact ih _
  | log e next ih => exact ih _

/-! ### Systems -/

/-- A request in flight. -/
structure Task where
  request : Request
  /-- What is left of its program. -/
  rest : Program request.Answer
  /-- The log fields bound around it. -/
  context : Context Field

namespace Task

/-- A request that has just arrived. -/
def new (r : Request) : Task := ⟨r, r.program, .empty⟩

/-- The request has been answered. -/
def Finished (t : Task) : Prop := ∃ r, t.rest = .done r

instance (t : Task) : Decidable t.Finished :=
  match h : t.rest with
  | .done r => isTrue ⟨r, h⟩
  | .call .. | .enter .. | .leave .. | .log .. => isFalse fun ⟨_, h'⟩ => nomatch h.symm.trans h'

end Task

/-- The world with the requests that have arrived so far. -/
structure System where
  course : Course
  tasks : List Task

/-- What happens next. -/
inductive Move (ι : Type)
  | arrive (r : Request)
  /-- The request at a position takes its next step. -/
  | advance (k : Nat) (i : ι)
  | setClock (now : Moment)

namespace System

variable {ι : Type}

/-- The world before any request. -/
def start (w : World) : System := ⟨⟨w, []⟩, []⟩

/-- A request after its next step, and the course after it. -/
def stepped (v : Service ι) (i : ι) (s : System) (t : Task) : Task × Course :=
  let o := t.rest.step (v.host i) (s.course.within t.context)
  (⟨t.request, o.1, o.2.world.context⟩, o.2.within s.course.world.context)

/-- The system after the request at a position took its next step. -/
def advance (v : Service ι) (s : System) (k : Nat) (i : ι) : System :=
  match s.tasks[k]? with
  | none => s
  | some t => ⟨(s.stepped v i t).2, s.tasks.set k (s.stepped v i t).1⟩

/-- The system after a move. -/
def step (v : Service ι) (s : System) : Move ι → System
  | .arrive r => { s with tasks := s.tasks ++ [.new r] }
  | .advance k i => s.advance v k i
  | .setClock now => { s with course := s.course.clockAt now }

/-- The system after some moves. -/
def play (v : Service ι) (s : System) (moves : List (Move ι)) : System := moves.foldl (step v) s

/-- Every request has been answered. -/
def Idle (s : System) : Prop := ∀ t ∈ s.tasks, t.Finished

instance (s : System) : Decidable s.Idle := inferInstanceAs (Decidable (∀ t ∈ s.tasks, t.Finished))

/-- Every request waits until those before it have been answered. -/
def Sequential (v : Service ι) (s : System) : List (Move ι) → Prop
  | [] => True
  | m :: moves => ((∃ r, m = .arrive r) → s.Idle) ∧ Sequential v (s.step v m) moves

instance (m : Move ι) : Decidable (∃ r, m = .arrive r) :=
  match m with
  | .arrive r => isTrue ⟨r, rfl⟩
  | .advance .. | .setClock _ => isFalse fun ⟨_, h⟩ => nomatch h

instance decidableSequential (v : Service ι) (s : System) :
    (moves : List (Move ι)) → Decidable (s.Sequential v moves)
  | [] => isTrue trivial
  | m :: moves =>
    haveI := decidableSequential v (s.step v m) moves
    inferInstanceAs (Decidable (((∃ r, m = .arrive r) → s.Idle) ∧ _))

/-- Every request that arrives suits the system as it is then. -/
def Admits (v : Service ι) (P : System → Request → Prop) (s : System) : List (Move ι) → Prop
  | [] => True
  | m :: moves => (∀ r, m = .arrive r → P s r) ∧ Admits v P (s.step v m) moves

instance (s : System) (P : System → Request → Prop) [∀ r, Decidable (P s r)] :
    (m : Move ι) → Decidable (∀ r, m = .arrive r → P s r)
  | .arrive r => decidable_of_iff (P s r) ⟨fun h _ hr => Move.arrive.inj hr ▸ h, fun h => h r rfl⟩
  | .advance .. | .setClock _ => isTrue fun _ h => nomatch h

instance decidableAdmits (v : Service ι) (P : System → Request → Prop)
    [∀ s r, Decidable (P s r)] (s : System) :
    (moves : List (Move ι)) → Decidable (s.Admits v P moves)
  | [] => isTrue trivial
  | m :: moves =>
    haveI := decidableAdmits v P (s.step v m) moves
    inferInstanceAs (Decidable ((∀ r, m = .arrive r → P s r) ∧ _))

@[simp] theorem play_nil (v : Service ι) (s : System) : s.play v [] = s := rfl

@[simp] theorem play_cons (v : Service ι) (s : System) (m : Move ι) (moves : List (Move ι)) :
    s.play v (m :: moves) = (s.step v m).play v moves := rfl

theorem play_append (v : Service ι) (s : System) (moves later : List (Move ι)) :
    s.play v (moves ++ later) = (s.play v moves).play v later := List.foldl_append

/-- The system after the request `t` at a position has run to its end. -/
def finish (v : Service ι) (i : ι) (s : System) (k : Nat) (t : Task) : System :=
  let o := t.rest.run (v.host i) (s.course.within t.context)
  ⟨o.2.within s.course.world.context,
    s.tasks.set k ⟨t.request, .done o.1, o.2.world.context⟩⟩

theorem advance_of_getElem? {v : Service ι} {s : System} {k : Nat} {t : Task}
    (h : s.tasks[k]? = some t) (i : ι) :
    s.advance v k i = ⟨(s.stepped v i t).2, s.tasks.set k (s.stepped v i t).1⟩ := by
  simp [advance, h]

theorem finish_advance {v : Service ι} {s : System} {k : Nat} {t : Task}
    (h : s.tasks[k]? = some t) (i : ι) :
    (s.advance v k i).finish v i k (s.stepped v i t).1 = s.finish v i k t := by
  have hrun : t.rest.run (v.host i) (s.course.within t.context) =
      (t.rest.step (v.host i) (s.course.within t.context)).1.run (v.host i)
        (t.rest.step (v.host i) (s.course.within t.context)).2 :=
    congrFun (Program.run_step (v.host i) t.rest) _
  simp only [finish, hrun, advance_of_getElem? h, List.set_set]
  rfl

/-- A request that is left alone runs from start to end. -/
theorem exists_play_eq_finish (v : Service ι) (i : ι) {s : System} {k : Nat} {t : Task}
    (h : s.tasks[k]? = some t) :
    ∃ n, s.play v (List.replicate n (.advance k i)) = s.finish v i k t := by
  -- one step leaves a task whose program is a branch of the tree
  have next : ∀ {s : System} {t : Task}, s.tasks[k]? = some t →
      (∃ n, (s.advance v k i).play v (List.replicate n (.advance k i)) =
        (s.advance v k i).finish v i k (s.stepped v i t).1) →
      ∃ n, s.play v (List.replicate n (.advance k i)) = s.finish v i k t := by
    rintro s t h ⟨n, hn⟩
    exact ⟨n + 1, by rw [List.replicate_succ, play_cons, ← finish_advance h]; exact hn⟩
  have stays : ∀ {s : System} {t : Task}, s.tasks[k]? = some t →
      (s.advance v k i).tasks[k]? = some (s.stepped v i t).1 := by
    intro s t h
    obtain ⟨hk, -⟩ := List.getElem?_eq_some_iff.1 h
    simp [advance_of_getElem? h, hk]
  obtain ⟨r, p, ctx⟩ := t
  induction p generalizing s ctx with
  | done x =>
    obtain ⟨hk, he⟩ := List.getElem?_eq_some_iff.1 h
    have hset : s.tasks.set k ⟨r, .done x, ctx⟩ = s.tasks := by rw [← he, List.set_getElem_self]
    exact ⟨0, (congrArg (System.mk s.course) hset).symm⟩
  | call c rest ih => exact next h (ih _ _ (stays h))
  | enter fields rest ih => exact next h (ih _ _ (stays h))
  | leave saved rest ih => exact next h (ih _ (stays h))
  | log e rest ih => exact next h (ih _ (stays h))

end System

/-! ### Sample runs -/

/-- The shipped settings with one processor and no subscribers. -/
def World.shipped : World :=
  ⟨.empty, .empty, ⟨.ofList [(.stripe, .ofSettings .stripe .shipped)]⟩, ⟨.shipped⟩,
    ⟨[], id, fun _ _ => true⟩, .epoch, .counting, .empty, []⟩

namespace Sample

/-- A subscriber. -/
def credentials : Credentials := ⟨[0xaa], [0xbb], .epoch⟩

/-- The subscriber as it is read once it has a customer. -/
def attached : Subscriber :=
  { Subscriber.new credentials.user credentials.hmac .epoch with
    customer := some ⟨"emulator_cus_0000000000000001_0", .stripe⟩
    customerUpdatedAt := some .epoch }

/-- A donation level in dollars. -/
def choice (level : Nat) (key : String) : LevelChoice :=
  ⟨level, "usd", key, s!"price_donation_{level}_usd"⟩

/-- The subscriber moves to a level, or starts at it. -/
def toLevel (level : Nat) (key : String) : Request :=
  .readAndUpdateLevel credentials .stripe (choice level key)

/-- The subscriber some seconds into a minute. -/
def credentialsAt (second : Fin 60) : Credentials :=
  { credentials with
    now := ⟨second.val * Calendar.microsPerSecond, some .utc, by
      have := second.isLt
      simp only [Calendar.firstWall, Calendar.lastWall, Calendar.microsPerSecond]
      omega⟩ }

/-- The subscriber moves to a level some seconds into a minute. -/
def toLevelAt (second : Fin 60) (level : Nat) (key : String) : Request :=
  .readAndUpdateLevel (credentialsAt second) .stripe (choice level key)

/-- The subscriber becomes known and starts at a level. -/
def subscribe (level : Nat) : List Request :=
  [.updateSubscriber credentials, .addPaymentMethod credentials .stripe .ios, toLevel level "first"]

/-- The bytes of a credential request. -/
def bytes : Bytes := 0 :: List.replicate 32 1

/-- Requests one after the other, each with enough steps to end. -/
def oneByOne {ι : Type} (i : ι) (rs : List Request) : List (Move ι) :=
  rs.zipIdx.flatMap fun r => .arrive r.1 :: List.replicate 32 (.advance r.2 i)

/-- A request that arrives twice, both taking turns. -/
def inTurns {ι : Type} (i : ι) (r : Request) : List (Move ι) :=
  [.arrive r, .arrive r] ++ (List.replicate 32 [.advance 0 i, .advance 1 i]).flatten

/-- The rules of the catalog, and no mishap. -/
def asShipped : Rules × Luck := (World.shipped.catalog.rules, .fine)

end Sample

end Patronage
