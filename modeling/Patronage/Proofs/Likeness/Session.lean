import Patronage.Proofs.Likeness.Program
import Patronage.Proofs.Payment
/-!
# Runs that are alike

What happens around a manager is a list of acts: its requests arrive and take turns, the clock is
set, and the store, the ledger and the processors are used without it.  A `Session` is a system with
the replies to those uses.  Acts that are alike lead from sessions that are alike to sessions that
are alike.  Main statement:

* `Session.like_run` — runs that are alike.
-/

namespace Patronage

variable {L : Likeness}

/-! ### Lists -/

theorem forall₂_getElem? {α β : Type} {R : α → β → Prop} {l : List α} {l' : List β}
    (h : List.Forall₂ R l l') (k : Nat) : Option.Rel R l[k]? l'[k]? := by
  induction h generalizing k with
  | nil => exact .none
  | cons ha _ ih =>
    cases k with
    | zero => exact .some ha
    | succ k => simpa using ih k

theorem forall₂_set {α β : Type} {R : α → β → Prop} {l : List α} {l' : List β} {a : α} {b : β}
    (h : List.Forall₂ R l l') (k : Nat) (hab : R a b) : List.Forall₂ R (l.set k a) (l'.set k b) := by
  induction h generalizing k with
  | nil => exact .nil
  | cons ha hl ih =>
    cases k with
    | zero => exact .cons hab hl
    | succ k => exact .cons ha (ih k)

/-! ### Systems -/

/-- Two requests that are alike in flight, with programs left that are alike and the same log fields
bound. -/
inductive Task.Like (L : Likeness) : Task → Task → Prop
  | mk {r r' : Request} {A : r.Answer → r'.Answer → Prop} {p : Program r.Answer}
    {p' : Program r'.Answer} (hr : r.Like L r' A) (hp : p.Like L A p') (ctx : Log.Context Log.Field) :
    Like L ⟨r, p, ctx⟩ ⟨r', p', ctx⟩

/-- Two systems that are alike. -/
structure System.Like (L : Likeness) (s s' : System) : Prop where
  world : s.course.world.Like L s'.course.world
  tasks : List.Forall₂ (Task.Like L) s.tasks s'.tasks

/-- Two moves that are alike. -/
inductive Move.Like (L : Likeness) : Move (Rules × Luck) → Move (Rules × Luck) → Prop
  | arrive {r r' : Request} {A : r.Answer → r'.Answer → Prop} (hr : r.Like L r' A) :
    Like L (.arrive r) (.arrive r')
  | advance (k : Nat) (i : Rules × Luck) : Like L (.advance k i) (.advance k i)
  | setClock {now now' : Moment} (hm : now.Like L now') : Like L (.setClock now) (.setClock now')

/-- Every call so far stayed on the calendar. -/
def Course.Reaches (s : Course) : Prop := ∀ x ∈ s.past, x.1.Reaches x.2

instance (s : Course) : Decidable s.Reaches :=
  inferInstanceAs (Decidable (∀ x ∈ s.past, x.1.Reaches x.2))

/-- Moments that differ may be told apart by nothing: credentials expire as the catalog has it, and
two courses have stayed on the calendar. -/
def Course.Safe (L : Likeness) (i : Rules × Luck) (w : World) (s s' : Course) : Prop :=
  L.exact ∨ (i.1.expiration = w.catalog.rules.expiration ∧ s.Reaches ∧ s'.Reaches)

namespace Course

variable {s s' : Course} {i : Rules × Luck}

theorem like_ask (h : s.world.Like L s'.world) {c c' : Call} {R : c.Answer → c'.Answer → Prop}
    (hcall : c.Like L c' R)
    (hc : Safe L i s.world (Service.inMemory i c s).2 (Service.inMemory i c' s').2) :
    Twin R (Service.inMemory i c s).1 (Service.inMemory i c' s').1 ∧
      (Service.inMemory i c s).2.world.Like L (Service.inMemory i c' s').2.world := by
  obtain ⟨rules, luck⟩ := i
  -- a call that took effect is the last one so far
  have heffect : (luck = .fine ∨ ∃ m, luck = .after m) →
      Twin R (s.world.answer rules c).1 (s'.world.answer rules c').1 ∧
        (s.world.answer rules c).2.Like L (s'.world.answer rules c').2 := by
    intro hluck
    refine World.like_answer h hcall (hc.imp_right fun ⟨hrules, hr, hr'⟩ => ⟨hrules, ?_, ?_⟩)
    · refine hr (s.world, c) ?_
      obtain rfl | ⟨m, rfl⟩ := hluck <;> exact List.mem_append_right _ List.mem_cons_self
    · refine hr' (s'.world, c') ?_
      obtain rfl | ⟨m, rfl⟩ := hluck <;> exact List.mem_append_right _ List.mem_cons_self
  cases luck with
  | fine => exact heffect (.inl rfl)
  | before m => exact ⟨.error _, h⟩
  | after m => exact ⟨.error _, (heffect (.inr ⟨m, rfl⟩)).2⟩

theorem like_within (h : s.world.Like L s'.world) {ctx ctx' : Log.Context Log.Field}
    (hctx : ctx = ctx') : (s.within ctx).world.Like L (s'.within ctx').world :=
  { h with context := hctx }

end Course

theorem Program.Like.step {α α' : Type} {A : α → α' → Prop} {p : Program α} {p' : Program α'}
    (hp : p.Like L A p') (s s' : Course) (h : s.world.Like L s'.world) (i : Rules × Luck)
    (hc : Course.Safe L i s.world (p.step (Service.inMemory.host i) s).2
      (p'.step (Service.inMemory.host i) s').2) :
    (p.step (Service.inMemory.host i) s).1.Like L A (p'.step (Service.inMemory.host i) s').1 ∧
      (p.step (Service.inMemory.host i) s).2.world.Like L
        (p'.step (Service.inMemory.host i) s').2.world := by
  cases hp with
  | done h' => exact ⟨.done h', h⟩
  | call hcall hnext =>
    obtain ⟨hanswer, hworld⟩ := Course.like_ask h hcall hc
    exact ⟨hnext hanswer, hworld⟩
  | @enter fields next next' hnext =>
    refine ⟨?_, ?_⟩
    · show (next (s.world.context.save fields)).Like L A (next' (s'.world.context.save fields))
      rw [h.context]
      exact hnext _
    · exact Course.like_within h (by rw [h.context])
  | leave saved hnext =>
    exact ⟨hnext, Course.like_within h (by rw [h.context])⟩
  | log e hnext =>
    have hwrite : (s.world.writeAll [e]).Like L (s'.world.writeAll [e]) := h.writeAll fun _ => rfl
    exact ⟨hnext, hwrite⟩

/-- A later course with the same settings. -/
structure Course.Follows (s s' : Course) : Prop where
  past : s.past <+: s'.past
  catalog : s'.world.catalog = s.world.catalog

namespace Course.Follows

variable {s s' s'' : Course}

theorem refl (s : Course) : s.Follows s := ⟨List.prefix_rfl, rfl⟩

theorem trans (h : s.Follows s') (h' : s'.Follows s'') : s.Follows s'' :=
  ⟨h.past.trans h'.past, h'.catalog.trans h.catalog⟩

theorem reaches (h : s.Follows s') (hr : s'.Reaches) : s.Reaches := fun x hx =>
  hr x (h.past.subset hx)

theorem inMemory (s : Course) (i : Rules × Luck) (c : Call) :
    s.Follows (Service.inMemory i c s).2 := by
  obtain h | h := s.ask_eq_or i.1 i.2 c
  · rw [Service.inMemory, h]
    exact .refl s
  · rw [Service.inMemory, h]
    exact ⟨List.prefix_append _ _, World.catalog_answer _ _ _⟩

end Course.Follows

namespace System

variable {s s' : System}

theorem follows_step (s : System) (m : Move (Rules × Luck)) :
    s.course.Follows (s.step .inMemory m).course :=
  forall_play (P := s.course.Follows) (fun ha h => ⟨ha.past ▸ h.past, ha.world.catalog ▸ h.catalog⟩)
    (fun i c s' h => h.trans (.inMemory s' i c)) (.refl s.course) [m]

/-- The request at a position takes steps that are alike. -/
theorem like_advance (h : s.Like L s') (k : Nat) (i : Rules × Luck)
    (hc : Course.Safe L i s.course.world (s.advance .inMemory k i).course
      (s'.advance .inMemory k i).course) :
    (s.advance .inMemory k i).Like L (s'.advance .inMemory k i) := by
  obtain ⟨hn, hn'⟩ | ⟨t, t', ht, ht', hl⟩ := OptionRel.none_or_some (forall₂_getElem? h.tasks k)
  · unfold advance
    rw [hn, hn']
    exact h
  · rw [advance_of_getElem? ht, advance_of_getElem? ht'] at hc ⊢
    cases hl with
    | @mk r r' A p p' hr hp ctx =>
      obtain ⟨hrest, hworld⟩ := hp.step (s.course.within ctx) (s'.course.within ctx)
        (Course.like_within h.world rfl) i hc
      refine ⟨Course.like_within hworld h.world.context, forall₂_set h.tasks k ?_⟩
      · simp only [stepped]
        rw [hworld.context]
        exact .mk hr hrest _

end System

/-- Credentials expire as the catalog has it, as far as a move asks. -/
def Move.KeepsTo (c : Catalog) : Move (Rules × Luck) → Prop
  | .advance _ i => i.1.expiration = c.rules.expiration
  | .arrive _ | .setClock _ => True

/-- Moves that are alike keep systems alike. -/
theorem System.like_step {s s' : System} (h : s.Like L s') {m m' : Move (Rules × Luck)}
    (hm : m.Like L m')
    (hc : L.exact ∨ (m.KeepsTo s.course.world.catalog ∧ (s.step .inMemory m).course.Reaches ∧
      (s'.step .inMemory m').course.Reaches)) :
    (s.step .inMemory m).Like L (s'.step .inMemory m') := by
  cases hm with
  | arrive hr =>
    exact ⟨h.world, List.rel_append h.tasks (.cons (.mk hr (Request.like_program hr) .empty) .nil)⟩
  | setClock hm => exact ⟨{ h.world with clock := hm }, h.tasks⟩
  | advance k i => exact like_advance h k i hc

/-! ### Sessions -/

/-- Something that happens around a manager: a move of its requests, a collaborator used without it,
a customer that has to confirm its payments or need not any more, or every subscriber forgotten. -/
inductive Act
  | move (m : Move (Rules × Luck))
  | use (i : Rules × Luck) (c : Call)
  | requireAction (p : Provider) (customerId : String) (required : Bool)
  | clear

/-- What a collaborator that was used without the manager replied. -/
inductive Reply
  | used (c : Call) (answer : Except Fault c.Answer)
  | required (answer : Except Fault Unit)

/-- A system with the replies of collaborators that were used without the manager. -/
structure Session where
  system : System
  replies : List Reply

namespace Session

/-- The session before anything happens. -/
def start (w : World) : Session := ⟨.start w, []⟩

/-- The session with another course and another reply. -/
def replied (s : Session) (c : Course) (r : Reply) : Session :=
  ⟨{ s.system with course := c }, s.replies ++ [r]⟩

/-- The session after an act. -/
def act (s : Session) : Act → Session
  | .move m => { s with system := s.system.step .inMemory m }
  | .use i c =>
    let o := Service.inMemory i c s.system.course
    s.replied o.2 (.used c o.1)
  | .requireAction p customerId required =>
    let o := s.system.course.world.withProcessor p fun e => e.requireAction customerId required
    s.replied { s.system.course with world := o.2 } (.required o.1)
  | .clear =>
    { s with system := { s.system with course := { s.system.course with
        world := { s.system.course.world with store := .empty } } } }

/-- The session after some acts. -/
def run (s : Session) (acts : List Act) : Session := acts.foldl act s

end Session

/-- Two acts that are alike. -/
inductive Act.Like (L : Likeness) : Act → Act → Prop
  | move {m m' : Move (Rules × Luck)} (hm : m.Like L m') : Like L (.move m) (.move m')
  | use (i : Rules × Luck) {c c' : Call} {R : c.Answer → c'.Answer → Prop} (hc : c.Like L c' R) :
    Like L (.use i c) (.use i c')
  | requireAction (p : Provider) (customerId : String) (required : Bool) :
    Like L (.requireAction p customerId required) (.requireAction p customerId required)
  | clear : Like L .clear .clear

theorem Act.like_moves {ms ms' : List (Move (Rules × Luck))}
    (h : List.Forall₂ (Move.Like L) ms ms') :
    List.Forall₂ (Act.Like L) (ms.map .move) (ms'.map .move) :=
  List.forall₂_map_left_iff.2 (List.forall₂_map_right_iff.2 (h.imp fun _ _ => .move))

/-- Credentials expire as the catalog has it, as far as an act asks. -/
def Act.KeepsTo (c : Catalog) : Act → Prop
  | .move m => m.KeepsTo c
  | .use i _ => i.1.expiration = c.rules.expiration
  | .requireAction .. | .clear => True

/-- Two replies that are alike. -/
inductive Reply.Like (L : Likeness) : Reply → Reply → Prop
  | used {c c' : Call} {R : c.Answer → c'.Answer → Prop} {a : Except Fault c.Answer}
    {a' : Except Fault c'.Answer} (hc : c.Like L c' R) (ha : Twin R a a') :
    Like L (.used c a) (.used c' a')
  | required (a : Except Fault Unit) : Like L (.required a) (.required a)

/-- Two sessions that are alike: the worlds, the requests in flight with their results, and the
replies. -/
structure Session.Like (L : Likeness) (s s' : Session) : Prop where
  system : s.system.Like L s'.system
  replies : List.Forall₂ (Reply.Like L) s.replies s'.replies

namespace Session

variable {s s' : Session}

/-- Every call so far stayed on the calendar. -/
def Reaches (s : Session) : Prop := s.system.course.Reaches

instance (s : Session) : Decidable s.Reaches := inferInstanceAs (Decidable s.system.course.Reaches)

theorem run_cons (s : Session) (a : Act) (acts : List Act) :
    s.run (a :: acts) = (s.act a).run acts := rfl

theorem follows_act (s : Session) (a : Act) :
    s.system.course.Follows (s.act a).system.course := by
  cases a with
  | move m => exact s.system.follows_step m
  | use i c => exact .inMemory _ i c
  | requireAction p customerId required =>
    exact ⟨List.prefix_rfl, World.catalog_withProcessor _ _⟩
  | clear => exact ⟨List.prefix_rfl, rfl⟩

theorem follows_run (s : Session) (acts : List Act) :
    s.system.course.Follows (s.run acts).system.course := by
  induction acts generalizing s with
  | nil => exact .refl _
  | cons a acts ih => exact (s.follows_act a).trans (ih _)

/-- Acts that are alike keep sessions alike. -/
theorem like_act (h : s.Like L s') {a a' : Act} (ha : a.Like L a')
    (hc : L.exact ∨ (a.KeepsTo s.system.course.world.catalog ∧ (s.act a).Reaches ∧
      (s'.act a').Reaches)) : (s.act a).Like L (s'.act a') := by
  cases ha with
  | move hm => exact ⟨System.like_step h.system hm hc, h.replies⟩
  | use i hcall =>
    obtain ⟨hanswer, hworld⟩ := Course.like_ask h.system.world hcall hc
    exact ⟨⟨hworld, h.system.tasks⟩, List.rel_append h.replies (.cons (.used hcall hanswer) .nil)⟩
  | requireAction p customerId required =>
    obtain ⟨hanswer, hworld⟩ := World.like_withProcessor h.system.world p
      fun he => Emulator.like_requireAction he customerId required
    refine ⟨⟨hworld, h.system.tasks⟩, List.rel_append h.replies (.cons ?_ .nil)⟩
    rw [hanswer.eq]
    exact .required _
  | clear => exact ⟨⟨{ h.system.world with store := .nil }, h.system.tasks⟩, h.replies⟩

/-- Runs that are alike: acts that are alike lead from sessions that are alike to sessions that are
alike. -/
theorem like_run (h : s.Like L s') {acts acts' : List Act} (ha : List.Forall₂ (Act.Like L) acts acts')
    (hc : L.exact ∨ ((∀ a ∈ acts, a.KeepsTo s.system.course.world.catalog) ∧
      (s.run acts).Reaches ∧ (s'.run acts').Reaches)) : (s.run acts).Like L (s'.run acts') := by
  induction ha generalizing s s' with
  | nil => exact h
  | @cons a a' acts acts' ha _ ih =>
    rw [run_cons, run_cons] at hc ⊢
    refine ih (like_act h ha ?_) ?_
    · refine hc.imp_right fun ⟨hkeeps, hr, hr'⟩ => ⟨hkeeps a List.mem_cons_self, ?_, ?_⟩
      · exact (follows_run _ acts).reaches hr
      · exact (follows_run _ acts').reaches hr'
    · refine hc.imp_right fun ⟨hkeeps, hr, hr'⟩ => ⟨fun b hb => ?_, hr, hr'⟩
      rw [(s.follows_act a).catalog]
      exact hkeeps b (List.mem_cons_of_mem _ hb)

end Session

/-- A world without subscribers is like itself on a clock that is alike. -/
theorem World.Fresh.like {w : World} (h : w.Fresh) {clock : Moment} (hm : w.clock.Like L clock) :
    w.Like L { w with clock := clock } where
  store := by rw [h.store]; exact .nil
  ledger := by rw [h.ledger]; exact .nil
  registry p := by
    show Option.Rel _ (w.registry.find? p) (w.registry.find? p)
    cases he : w.registry.find? p with
    | none => exact .none
    | some e =>
      obtain ⟨hcustomers, hsubscriptions, -⟩ := h.registry he
      refine .some ⟨rfl, rfl, rfl, ?_, ?_, rfl, rfl, rfl⟩
      · rw [hcustomers]; exact .nil
      · rw [hsubscriptions]; exact .nil
  catalog := rfl
  signer := rfl
  clock := hm
  tokens := rfl
  context := rfl
  events _ := rfl

/-- Sessions start alike. -/
theorem World.Fresh.like_start {w : World} (h : w.Fresh) {clock : Moment}
    (hm : w.clock.Like L clock) :
    (Session.start w).Like L (.start { w with clock := clock }) :=
  ⟨⟨h.like hm, .nil⟩, .nil⟩

/-! ### Sample runs -/

namespace Sample

/-- A subscriber starts at a level and asks for a credential when the clock says so. -/
def payAt (c : Credentials) (now : Moment) : List (Move (Rules × Luck)) :=
  oneByOne asShipped [.updateSubscriber c, .addPaymentMethod c .stripe .ios,
      .readAndUpdateLevel c .stripe (choice 500 "first")] ++
    .setClock now :: .arrive (.createReceipt c bytes) ::
      List.replicate 32 (.advance 3 asShipped)

theorem like_advances (k n : Nat) :
    List.Forall₂ (Move.Like L) (List.replicate n (.advance k asShipped))
      (List.replicate n (.advance k asShipped)) :=
  List.forall₂_same.2 fun m hm => by
    rw [List.eq_of_mem_replicate hm]
    exact .advance k asShipped

theorem like_payAt {c c' : Credentials} {now now' : Moment} (hc : c.Like L c')
    (hm : now.Like L now') : List.Forall₂ (Move.Like L) (payAt c now) (payAt c' now') := by
  refine List.rel_append ?_ (.cons (.setClock hm) (.cons (.arrive (.createReceipt hc bytes))
    (like_advances 3 32)))
  refine List.rel_append (.cons (.arrive (.updateSubscriber hc)) (like_advances 0 32)) ?_
  refine List.rel_append (.cons (.arrive (.addPaymentMethod hc .stripe .ios)) (like_advances 1 32)) ?_
  exact List.rel_append (.cons (.arrive (.readAndUpdateLevel hc .stripe _)) (like_advances 2 32)) .nil

end Sample

end Patronage
