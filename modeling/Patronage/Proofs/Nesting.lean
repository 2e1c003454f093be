import Patronage.Proofs.Likeness.World
import Patronage.Proofs.Pricing
import Patronage.Proofs.Renaming
import Patronage.Proofs.Shift
/-!
# Blocks of log fields within each other

Operations and blocks of log fields nest: an operation calls another one, and a callback may start
operations and enter blocks of its own.  A `Scene` is a world together with the blocks that are
entered, the innermost first, and with the events as they were before the fields around them were
added; it follows the world and has no say in what happens.  Main statements:

* `Request.nested_program` — every operation leaves the blocks that it enters;
* `Program.Nested.extends` — a program that does so extends its scene, whatever callbacks run in it;
* `World.labelled_within` — after such a program the fields bound are those bound before, and every
  event carries the subscriber and the operation around it.
-/

namespace Patronage

open Log

namespace Assoc

variable {κ α : Type} [DecidableEq κ]

theorem find_reverse_of_nodup {es : List (κ × α)} (h : (es.map (·.1)).Nodup) (k : κ) :
    find k es.reverse = find k es := by
  induction es with
  | nil => rfl
  | cons e es ih =>
    obtain ⟨hnew, hes⟩ := List.nodup_cons.1 h
    rw [List.reverse_cons, find_append, ih hes]
    by_cases hk : e.1 = k
    · have hnone : find k es = none := find_eq_none fun e' he' hk' =>
        hnew (List.mem_map.2 ⟨e', he', hk'.trans hk.symm⟩)
      simp [find, hnone, hk]
    · simp [find, hk]

/-- Of two maps written over each other the upper one counts where it has a key. -/
theorem get?_override {top : Assoc κ α} (h : top.keys.Nodup) (m : Assoc κ α) (k : κ) :
    (m.override top).get? k = (top.get? k).or (m.get? k) := by
  rw [override, get?_insertAll, find_reverse_of_nodup h]
  rfl

theorem get?_override_of_not_mem {top : Assoc κ α} {k : κ} (h : k ∉ top.keys) (m : Assoc κ α) :
    (m.override top).get? k = m.get? k := by
  have hnone : find k top.entries.reverse = none := find_eq_none fun e he hk =>
    h (List.mem_map.2 ⟨e, List.mem_reverse.1 he, hk⟩)
  rw [override, get?_insertAll, hnone, Option.none_or]

theorem get?_eq_none_of_not_mem {m : Assoc κ α} {k : κ} (h : k ∉ m.keys) : m.get? k = none :=
  find_eq_none fun e he hk => h (List.mem_map.2 ⟨e, he, hk⟩)

end Assoc

/-! ### Programs that leave what they enter -/

namespace Program

variable {α β γ : Type}

theorem andThen_assoc (p : Program α) (f : Except Fault α → Program β)
    (g : Except Fault β → Program γ) :
    (p.andThen f).andThen g = p.andThen fun r => (f r).andThen g := by
  induction p with
  | done r => rfl
  | call c next ih => simp only [andThen, ih]
  | enter fields next ih => simp only [andThen, ih]
  | leave saved next ih => simp only [andThen, ih]
  | log e next ih => simp only [andThen, ih]

theorem andThen_done (p : Program α) : p.andThen .done = p := by
  induction p with
  | done r => rfl
  | call c next ih => simp only [andThen, ih]
  | enter fields next ih => simp only [andThen, ih]
  | leave saved next ih => simp only [andThen, ih]
  | log e next ih => simp only [andThen, ih]

/-- Programs made of calls, events and whole blocks of log fields, to any depth; a block binds no
name twice. -/
inductive Nested : {α : Type} → Program α → Prop
  | done {α : Type} (r : Except Fault α) : Nested (.done r)
  | call {α : Type} {c : Call} {next : Except Fault c.Answer → Program α} :
    (∀ r, Nested (next r)) → Nested (.call c next)
  | log {α : Type} {e : Entry} {next : Program α} : Nested next → Nested (.log e next)
  | block {α β : Type} {fields : Log.Fields Field} {p : Program β}
    {next : Except Fault β → Program α} :
    fields.keys.Nodup → Nested p → (∀ r, Nested (next r)) → Nested ((p.within fields).andThen next)

theorem Nested.andThen {p : Program α} {f : Except Fault α → Program β} (h : p.Nested)
    (hf : ∀ r, (f r).Nested) : (p.andThen f).Nested := by
  induction h with
  | done r => exact hf r
  | call _ ih => exact .call fun r => ih r hf
  | log _ ih => exact .log (ih hf)
  | block hfields hp _ _ ih =>
    rw [andThen_assoc]
    exact .block hfields hp fun r => ih r hf

theorem Nested.bind {p : Program α} {f : α → Program β} (h : p.Nested) (hf : ∀ a, (f a).Nested) :
    (p >>= f).Nested := by
  refine h.andThen fun r => ?_
  cases r with
  | error e => exact .done _
  | ok a => exact hf a

/-- A block around a program is left whatever the result is. -/
theorem Nested.within {p : Program α} (h : p.Nested) {fields : Log.Fields Field}
    (hfields : fields.keys.Nodup) : (p.within fields).Nested := by
  rw [← andThen_done (p.within fields)]
  exact .block hfields h fun r => .done r

theorem nested_ask (c : Call) : (ask c).Nested := .call fun r => .done r

theorem nested_write (e : Entry) : (write e).Nested := .log (.done _)

end Program

namespace Manager

open Program

/-- What an operation binds. -/
def frame (name : String) (c : Credentials) : Log.Fields Field :=
  .ofList [("subscriber", .text (Subscriber.tag c.user)), ("operation", .text name)]

variable {α : Type}

/-- An operation is a block around what it does. -/
theorem operation_eq (name : String) (c : Credentials) (p : Program α) :
    operation name c p = p.within (frame name c) := rfl

theorem nodup_keys_frame (name : String) (c : Credentials) : (frame name c).keys.Nodup := by
  have hkeys : (frame name c).keys = ["subscriber", "operation"] := rfl
  rw [hkeys]
  decide

theorem nested_operation {name : String} {c : Credentials} {p : Program α} (h : p.Nested) :
    (operation name c p).Nested := by
  rw [operation_eq]
  exact h.within (nodup_keys_frame name c)

theorem nested_persist {p : Program α} (h : p.Nested) : (persist p).Nested := by
  refine h.andThen fun r => ?_
  split <;> exact .done _

theorem nested_orRequiresAction {p : Program α} (h : p.Nested) : (orRequiresAction p).Nested := by
  refine h.andThen fun r => ?_
  split
  · split <;> exact .done _
  · exact .done _

theorem nested_getSubscriber (c : Credentials) : (getSubscriber c).Nested := by
  refine nested_operation (Nested.bind (nested_ask _) fun l => ?_)
  cases l <;> exact .done _

theorem nested_updateSubscriber (c : Credentials) : (updateSubscriber c).Nested := by
  refine nested_operation (Nested.bind (nested_ask _) fun l => ?_)
  cases l with
  | wrongPassword => exact .done _
  | notStored =>
    refine Nested.bind (nested_ask _) fun created => ?_
    split <;> exact .done _
  | found s => exact nested_persist (nested_ask _)

theorem nested_cancelRemote (customer : Customer) : (cancelRemote customer).Nested := by
  refine Nested.bind (nested_ask _) fun _ => (nested_ask _).andThen fun r => ?_
  split
  · split
    · exact nested_write _
    · exact .done _
  · exact .done _

theorem nested_deleteSubscriber (c : Credentials) : (deleteSubscriber c).Nested := by
  refine nested_operation (Nested.bind (nested_ask _) fun l => ?_)
  cases l with
  | wrongPassword | notStored => exact .done _
  | found s =>
    have hstore : (persist (ask (.canceledAt c.user c.now))).Nested := nested_persist (nested_ask _)
    dsimp only
    split
    · exact Nested.bind (nested_cancelRemote _) fun _ => hstore
    · exact hstore

theorem nested_addPaymentMethod (c : Credentials) (p : Provider) (platform : Platform) :
    (addPaymentMethod c p platform).Nested := by
  refine nested_operation (Nested.bind (nested_getSubscriber c) fun r => ?_)
  refine Nested.bind ?_ fun s => ?_
  · unfold attach
    split
    · split <;> exact .done _
    · exact Nested.bind (nested_ask _) fun _ => nested_persist (nested_ask _)
  · split
    · split
      · exact nested_ask _
      · exact .done _
    · exact .done _

theorem nested_changeLevel (c : Credentials) (p : Provider) (choice : LevelChoice) (id : String) :
    (changeLevel c p choice id).Nested := by
  refine Nested.bind (nested_ask _) fun s => ?_
  refine Nested.bind (nested_ask _) fun current => ?_
  refine Nested.bind (.done _) fun wanted => ?_
  split
  · exact nested_write _
  · refine Nested.bind (nested_ask _) fun allowed => ?_
    split
    · exact Nested.bind (nested_ask _) fun _ => nested_persist (nested_ask _)
    · exact .done _

theorem nested_subscribe (c : Credentials) (p : Provider) (choice : LevelChoice) (s : Subscriber) :
    (subscribe c p choice s).Nested := by
  have opening : ∀ customer last, (orRequiresAction (ask (.createSubscription p customer
      choice.templateId choice.level last)) >>= fun id =>
        persist (ask (.subscriptionCreated c.user id c.now choice.level))).Nested :=
    fun customer last => Nested.bind (nested_orRequiresAction (nested_ask _)) fun id =>
      nested_persist (nested_ask _)
  unfold subscribe
  split
  · exact .done _
  split
  · dsimp only
    split
    · exact Nested.bind (.done _) fun last => opening _ last
    · exact opening _ 0
  · exact .done _

theorem nested_updateLevel (c : Credentials) (s : Subscriber) (p : Provider)
    (choice : LevelChoice) : (updateLevel c s p choice).Nested := by
  unfold updateLevel
  refine nested_operation ?_
  split
  · exact nested_changeLevel c p choice _
  · exact nested_subscribe c p choice s

theorem nested_createReceipt (c : Credentials) (bytes : Bytes) :
    (createReceipt c bytes).Nested := by
  refine nested_operation (Nested.bind (nested_getSubscriber c) fun s => ?_)
  split
  · exact .done _
  have classified : ∀ {α : Type} {call : Call} {f : Except Fault call.Answer → Program α},
      (∀ r, (f r).Nested) → ((ask call).andThen f).Nested := fun hf => (nested_ask _).andThen hf
  refine Nested.bind (classified fun r => by split <;> exact .done _) fun request => ?_
  split
  · exact .done _
  refine Nested.bind (nested_ask _) fun _ => ?_
  refine Nested.bind (nested_ask _) fun item => ?_
  refine Nested.bind (.done _) fun print => ?_
  refine Nested.bind (nested_ask _) fun noted => ?_
  split
  · exact .done _
  refine Nested.bind (nested_ask _) fun expires => ?_
  refine Nested.bind (.done _) fun seconds => ?_
  refine Nested.bind (classified fun r => by split <;> exact .done _) fun credential => ?_
  refine Nested.bind (.done _) fun event => ?_
  exact Nested.bind (nested_write _) fun _ => .done _

end Manager

open Manager in
/-- Every operation leaves the blocks that it enters, whatever its calls answer. -/
theorem Request.nested_program (r : Request) : r.program.Nested := by
  cases r with
  | updateSubscriber c => exact nested_updateSubscriber c
  | getSubscriber c => exact nested_getSubscriber c
  | deleteSubscriber c => exact nested_deleteSubscriber c
  | addPaymentMethod c p platform => exact nested_addPaymentMethod c p platform
  | updateLevel c s p choice => exact nested_updateLevel c s p choice
  | readAndUpdateLevel c p choice =>
    exact Program.Nested.bind (nested_getSubscriber c) fun s => nested_updateLevel c s p choice
  | createReceipt c bytes => exact nested_createReceipt c bytes

/-! ### Blocks that are entered -/

/-- The blocks of log fields that are entered, the innermost first. -/
abbrev Frames := List (Log.Fields Field)

/-- What the innermost block that binds a name binds it to. -/
def Frames.bound? (frames : Frames) (k : String) : Option Field := frames.findSome? (·.get? k)

theorem Frames.bound?_cons (fields : Log.Fields Field) (frames : Frames) (k : String) :
    Frames.bound? (fields :: frames) k = (fields.get? k).or (frames.bound? k) := by
  rw [bound?, List.findSome?_cons]
  cases fields.get? k <;> rfl

theorem Frames.bound?_append (inner outer : Frames) (k : String) :
    Frames.bound? (inner ++ outer) k = (inner.bound? k).or (outer.bound? k) :=
  List.findSome?_append

namespace World

/-- The events that a call writes, before the fields around them are added. -/
def told (w : World) : Call → List Entry
  | .create user password now => (w.store.create user password now).events
  | .accessedAt user now => (w.store.accessedAt user now).events
  | .canceledAt user now => (w.store.canceledAt user now).events
  | .setCustomer user c now => (w.store.setCustomer user c now).events
  | .subscriptionCreated user id now level =>
    (w.store.subscriptionCreated user id now level).events
  | .levelChanged user now level id => (w.store.levelChanged user now level id).events
  | .createCustomer p user platform =>
    (w.registry.find? p).elim [] fun e => (e.createCustomer w.mint user platform).events
  | .createSubscription p customerId templateId level last =>
    (w.registry.find? p).elim [] fun e =>
      (e.createSubscription w.mint customerId templateId level last).events
  | .updateSubscription p s templateId level key =>
    (w.registry.find? p).elim [] fun e =>
      (e.updateSubscription ⟨s.id, templateId, level⟩ key).events
  | .receiptItem p id => (w.registry.find? p).elim [] fun e => (e.receiptItem w.mint id).events
  | .cancelAll p customerId =>
    (w.registry.find? p).elim [] fun e => (e.cancelAll w.clock customerId).events
  | .record entry => (w.ledger.record entry).events
  | _ => []

variable (w : World) {α : Type}

/-- The world goes on to another one that has written some events more within the same fields. -/
def Writes (es : List Entry) (w' : World) : Prop :=
  w'.context = w.context ∧ w'.events = w.events ++ es.map w.context.complete

theorem writes_nil : w.Writes [] w := ⟨rfl, (List.append_nil _).symm⟩

theorem writes_withStore (o : Outcome Store α) : w.Writes o.events (w.withStore o).2 := by
  rw [withStore, writeAll_eq]
  exact ⟨rfl, rfl⟩

theorem writes_withLedger (o : Outcome Ledger α) : w.Writes o.events (w.withLedger o).2 := by
  rw [withLedger, writeAll_eq]
  exact ⟨rfl, rfl⟩

theorem writes_withProcessor (p : Provider) (act : Emulator → Outcome Emulator α) :
    w.Writes ((w.registry.find? p).elim [] fun e => (act e).events) (w.withProcessor p act).2 := by
  cases hp : w.registry.find? p with
  | none =>
    rw [withProcessor_of_none hp]
    exact w.writes_nil
  | some e =>
    rw [withProcessor_of_some hp, writeAll_eq]
    exact ⟨rfl, rfl⟩

theorem writes_withMint (p : Provider)
    (act : Emulator → Mint → Outcome (Emulator × TokenSource) α) :
    w.Writes ((w.registry.find? p).elim [] fun e => (act e w.mint).events)
      (w.withMint p act).2 := by
  cases hp : w.registry.find? p with
  | none =>
    rw [withMint_of_none hp]
    exact w.writes_nil
  | some e =>
    rw [withMint_of_some hp, writeAll_eq]
    exact ⟨rfl, rfl⟩

/-- A call writes what it tells and binds nothing. -/
theorem writes_answer (rules : Rules) (c : Call) : w.Writes (w.told c) (w.answer rules c).2 := by
  cases c with
  | create | accessedAt | canceledAt | setCustomer | subscriptionCreated | levelChanged =>
    exact w.writes_withStore _
  | record => exact w.writes_withLedger _
  | updateSubscription | cancelAll => exact w.writes_withProcessor _ _
  | createCustomer | createSubscription | receiptItem => exact w.writes_withMint _ _
  | lookUp | processorOf | subscription | tier | decode | issue | allows | expiration | setUp =>
    exact w.writes_nil

end World

/-! ### Callbacks -/

section

variable {σ τ α : Type}

/-- Callbacks: which calls are answered by running a program, and by which one. -/
abbrev Hooks (σ : Type) := σ → (c : Call) → Option (Program c.Answer)

namespace Host

/-- A host on which some calls run a program on another host. -/
def hooked (host : Host (StateM σ)) (hooks : Hooks σ) (inner : Host (StateM σ)) :
    Host (StateM σ) where
  call c := fun s =>
    match hooks s c with
    | some p => p.run inner s
    | none => host.call c s
  enter := host.enter
  leave := host.leave
  log := host.log

/-- A host with callbacks, and with callbacks for the calls that these make, and so on. -/
def nested (host : Host (StateM σ)) : List (Hooks σ) → Host (StateM σ)
  | [] => host
  | hooks :: rest => host.hooked hooks (host.nested rest)

/-- A host does on states of one kind what another one does on what they stand for. -/
structure Over (f : σ → τ) (a : Host (StateM σ)) (b : Host (StateM τ)) : Prop where
  call : ∀ c s, b.call c (f s) = ((a.call c s).1, f (a.call c s).2)
  enter : ∀ fields s, b.enter fields (f s) = ((a.enter fields s).1, f (a.enter fields s).2)
  leave : ∀ saved s, (b.leave saved (f s)).2 = f (a.leave saved s).2
  log : ∀ e s, (b.log e (f s)).2 = f (a.log e s).2

variable {f : σ → τ} {a : Host (StateM σ)} {b : Host (StateM τ)}

theorem Over.run (h : a.Over f b) (p : Program α) (s : σ) :
    p.run b (f s) = ((p.run a s).1, f (p.run a s).2) := by
  induction p generalizing s with
  | done r => rfl
  | call c next ih =>
    show (next (b.call c (f s)).1).run b (b.call c (f s)).2 = _
    rw [h.call]
    exact ih _ _
  | enter fields next ih =>
    show (next (b.enter fields (f s)).1).run b (b.enter fields (f s)).2 = _
    rw [h.enter]
    exact ih _ _
  | leave saved next ih =>
    show next.run b (b.leave saved (f s)).2 = _
    rw [h.leave]
    exact ih _
  | log e next ih =>
    show next.run b (b.log e (f s)).2 = _
    rw [h.log]
    exact ih _

theorem Over.nested (h : a.Over f b) (hooks : List (Hooks τ)) :
    (a.nested (hooks.map fun hook s => hook (f s))).Over f (b.nested hooks) := by
  induction hooks with
  | nil => exact h
  | cons hook rest ih =>
    refine ⟨fun c s => ?_, h.enter, h.leave, h.log⟩
    show (b.hooked hook (b.nested rest)).call c (f s) = _
    simp only [Host.hooked, Host.nested, List.map_cons]
    cases hook (f s) c with
    | none => exact h.call c s
    | some p => exact ih.run p s

end Host

end

/-! ### Scenes -/

/-- An event as it was before the fields around it were added, and the blocks that it is in. -/
structure Remark where
  frames : Frames
  entry : Entry

/-- A world, the blocks that are entered in it, and the events written since some moment. -/
structure Scene where
  world : World
  frames : Frames
  remarks : List Remark

namespace Scene

/-- A world in which no block is entered. -/
def start (w : World) : Scene := ⟨w, [], []⟩

@[simp] theorem world_start (w : World) : (start w).world = w := rfl

/-- The events written so far and some more within the same blocks. -/
def noting (s : Scene) (es : List Entry) : List Remark :=
  s.remarks ++ es.map fun e => ⟨s.frames, e⟩

/-- The scene within one more block. -/
def enter (s : Scene) (fields : Log.Fields Field) : Scene :=
  ⟨{ s.world with context := s.world.context.bind fields }, fields :: s.frames, s.remarks⟩

/-- The scene outside of its innermost block, what that replaced being put back. -/
def leave (s : Scene) (saved : Context.Saved Field) : Scene :=
  ⟨{ s.world with context := s.world.context.restore saved }, s.frames.tail, s.remarks⟩

/-- The host of a world, with notes of the blocks that are entered and of the events written. -/
def host (rules : Rules) : Host (StateM Scene) where
  call c := fun s =>
    let o := s.world.answer rules c
    (o.1, ⟨o.2, s.frames, s.noting (s.world.told c)⟩)
  enter fields := fun s => (s.world.context.save fields, s.enter fields)
  leave saved := fun s => ((), s.leave saved)
  log e := fun s => ((), ⟨s.world.write e, s.frames, s.noting [e]⟩)

/-- The notes have no say in what happens. -/
theorem host_over (rules : Rules) : (host rules).Over world (World.host rules) :=
  ⟨fun _ _ => rfl, fun _ _ => rfl, fun _ _ => rfl, fun _ _ => rfl⟩

/-- What is bound is what the blocks bind, over what was bound outside of all of them. -/
def Tracks (base : Context Field) (s : Scene) : Prop :=
  ∀ k, s.world.context.get? k = (s.frames.bound? k).or (base.get? k)

end Scene

/-- An event is written with its own fields, and with what the blocks around it bind to others. -/
def Remark.Written (base : Context Field) (r : Remark) (e : Entry) : Prop :=
  e.name = r.entry.name ∧
    ∀ k, k ∉ r.entry.fields.keys → e.fields.get? k = (r.frames.bound? k).or (base.get? k)

/-- A scene goes on to another one: the same blocks are entered, what they bind is bound, and the
events written meanwhile are in these blocks and maybe in some within them. -/
structure Scene.Extends (base : Context Field) (s s' : Scene) : Prop where
  frames : s'.frames = s.frames
  tracks : s'.Tracks base
  noted : ∃ rs es, s'.remarks = s.remarks ++ rs ∧ s'.world.events = s.world.events ++ es ∧
    List.Forall₂ (Remark.Written base) rs es ∧ ∀ r ∈ rs, s.frames <:+ r.frames

namespace Scene

variable {base : Context Field} {s s' s'' : Scene}

theorem tracks_start (w : World) : (start w).Tracks w.context := fun _ => rfl

theorem Extends.refl (hs : s.Tracks base) : s.Extends base s :=
  ⟨rfl, hs, [], [], by simp, by simp, .nil, by simp⟩

theorem Extends.trans (h : s.Extends base s') (h' : s'.Extends base s'') : s.Extends base s'' := by
  obtain ⟨rs, es, hrs, hes, hwritten, hinside⟩ := h.noted
  obtain ⟨rs', es', hrs', hes', hwritten', hinside'⟩ := h'.noted
  refine ⟨h'.frames.trans h.frames, h'.tracks, rs ++ rs', es ++ es', ?_, ?_, ?_, ?_⟩
  · rw [hrs', hrs, List.append_assoc]
  · rw [hes', hes, List.append_assoc]
  · exact List.rel_append hwritten hwritten'
  · intro r hr
    obtain hr | hr := List.mem_append.1 hr
    · exact hinside r hr
    · exact h.frames ▸ hinside' r hr

/-- Writing events extends a scene. -/
theorem Extends.of_writes (hs : s.Tracks base) {es : List Entry} {w : World}
    (h : s.world.Writes es w) : s.Extends base ⟨w, s.frames, s.noting es⟩ := by
  refine ⟨rfl, fun k => ?_, _, _, rfl, h.2, ?_, ?_⟩
  · exact h.1 ▸ hs k
  · rw [List.forall₂_map_left_iff, List.forall₂_map_right_iff, List.forall₂_same]
    exact fun e _ => ⟨rfl, fun k hk => (Assoc.get?_override_of_not_mem hk _).trans (hs k)⟩
  · intro r hr
    obtain ⟨e, -, rfl⟩ := List.mem_map.1 hr
    exact List.suffix_refl _

theorem Tracks.enter (hs : s.Tracks base) {fields : Log.Fields Field}
    (hfields : fields.keys.Nodup) : (s.enter fields).Tracks base := by
  intro k
  have hbound : (s.enter fields).world.context.get? k =
    (fields.get? k).or (s.world.context.get? k) := Assoc.get?_override hfields _ k
  rw [hbound, hs k, ← Option.or_assoc, ← Frames.bound?_cons]
  rfl

/-- A block around something that extends its scene extends the scene around it: what the block
replaced is put back. -/
theorem Extends.of_block (hs : s.Tracks base) {fields : Log.Fields Field}
    (h : (s.enter fields).Extends base s') :
    s.Extends base (s'.leave (s.world.context.save fields)) := by
  have hframes : (s'.leave (s.world.context.save fields)).frames = s.frames :=
    congrArg List.tail h.frames
  refine ⟨hframes, fun k => ?_, ?_⟩
  · have hrestored : (s'.leave (s.world.context.save fields)).world.context.get? k =
        if k ∈ fields.keys then s.world.context.get? k else s'.world.context.get? k :=
      Context.get?_restore_save _ _ _ k
    rw [hrestored, hframes, ← hs k]
    split
    · rfl
    · -- a name that the block does not bind is bound inside as it is outside
      rename_i hk
      have hnone := Assoc.get?_eq_none_of_not_mem hk
      rw [h.tracks k, h.frames, hs k]
      show ((Frames.bound? (fields :: s.frames) k).or _) = _
      rw [Frames.bound?_cons, hnone, Option.none_or]
  · obtain ⟨rs, es, hrs, hes, hwritten, hinside⟩ := h.noted
    refine ⟨rs, es, hrs, hes, hwritten, fun r hr => ?_⟩
    exact (List.suffix_cons fields s.frames).trans (hinside r hr)

end Scene

/-- A host on which calls and events extend the scene and blocks are entered and left. -/
structure Host.Scoped (base : Context Field) (host : Host (StateM Scene)) : Prop where
  call : ∀ c (s : Scene), s.Tracks base → s.Extends base (host.call c s).2
  log : ∀ e (s : Scene), s.Tracks base → s.Extends base (host.log e s).2
  enter : ∀ fields s, host.enter fields s = (s.world.context.save fields, s.enter fields)
  leave : ∀ saved s, (host.leave saved s).2 = s.leave saved

section

variable {α : Type} {base : Context Field} {host : Host (StateM Scene)}

theorem Host.Scoped.run_within (hhost : host.Scoped base) (p : Program α)
    (fields : Log.Fields Field) (s : Scene) :
    (p.within fields).run host s = ((p.run host (s.enter fields)).1,
      (p.run host (s.enter fields)).2.leave (s.world.context.save fields)) := by
  rw [Program.run_within]
  show ((p.run host (host.enter fields s).2).1,
    (host.leave (host.enter fields s).1 (p.run host (host.enter fields s).2).2).2) = _
  rw [hhost.leave, hhost.enter]

/-- A program that leaves the blocks that it enters extends its scene. -/
theorem Program.Nested.extends (hhost : host.Scoped base) {p : Program α} (hp : p.Nested)
    {s : Scene} (hs : s.Tracks base) : s.Extends base (p.run host s).2 := by
  induction hp generalizing s with
  | done r => exact .refl hs
  | @call α c next _ ih =>
    have hcall := hhost.call c s hs
    exact hcall.trans (ih _ hcall.tracks)
  | @log α e next _ ih =>
    have hlog := hhost.log e s hs
    exact hlog.trans (ih hlog.tracks)
  | @block α β fields p next hfields _ _ ihp ihnext =>
    have hinside := ihp (hs.enter hfields)
    have hblock := hinside.of_block hs
    have hrun : ((p.within fields).andThen next).run host s =
        (next ((p.within fields).run host s).1).run host ((p.within fields).run host s).2 := by
      rw [run_andThen]
      rfl
    rw [hrun, hhost.run_within]
    exact hblock.trans (ihnext _ hblock.tracks)

theorem Scene.scoped_host (rules : Rules) : (Scene.host rules).Scoped base where
  call c s hs := .of_writes hs (s.world.writes_answer rules c)
  log _ _ hs := .of_writes hs ⟨rfl, rfl⟩
  enter _ _ := rfl
  leave _ _ := rfl

/-- Callbacks that leave the blocks that they enter are as good as calls. -/
theorem Host.Scoped.nested (hhost : host.Scoped base) {hooks : List (Hooks Scene)}
    (hhooks : ∀ hook ∈ hooks, ∀ s c p, hook s c = some p → p.Nested) :
    (host.nested hooks).Scoped base := by
  induction hooks with
  | nil => exact hhost
  | cons hook rest ih =>
    have hrest := ih fun hook h => hhooks hook (List.mem_cons_of_mem _ h)
    refine ⟨fun c s hs => ?_, hhost.log, hhost.enter, hhost.leave⟩
    show s.Extends base ((match hook s c with
      | some p => p.run (host.nested rest) s
      | none => host.call c s) : Except Fault c.Answer × Scene).2
    cases hp : hook s c with
    | none => exact hhost.call c s hs
    | some p => exact (hhooks hook List.mem_cons_self s c p hp).extends hrest hs

end

/-! ### Operations -/

/-- An event written in an operation, and maybe in some blocks within it, carries the subscriber's
tag and the operation's name, unless it has fields of these names itself or the blocks within bind
them: then those count. -/
structure Manager.Labelled (inner : Frames) (name : String) (c : Credentials) (own e : Entry) :
    Prop where
  subscriber : "subscriber" ∉ own.fields.keys →
    e.fields.get? "subscriber" =
      some ((inner.bound? "subscriber").getD (.text (Subscriber.tag c.user)))
  operation : "operation" ∉ own.fields.keys →
    e.fields.get? "operation" = some ((inner.bound? "operation").getD (.text name))

theorem Remark.Written.labelled {base : Context Field} {r : Remark} {e : Entry}
    (h : r.Written base e) {inner outer : Frames} {name : String} {c : Credentials}
    (hframes : r.frames = inner ++ Manager.frame name c :: outer) :
    Manager.Labelled inner name c r.entry e := by
  have carried : ∀ {k v}, (Manager.frame name c).get? k = some v → k ∉ r.entry.fields.keys →
      e.fields.get? k = some ((inner.bound? k).getD v) := by
    intro k v hv hk
    rw [h.2 k hk, hframes, Frames.bound?_append, Frames.bound?_cons, hv]
    cases inner.bound? k <;> rfl
  exact ⟨carried rfl, carried rfl⟩

/-- A world in which blocks may be entered, what they bind being bound. -/
def Scene.Tracked (s : Scene) : Prop := ∃ base, s.Tracks base

/-- Wherever a block of log fields is entered, and whatever operations, blocks and callbacks run in
it, what is bound after it is what was bound before; and every event written in it carries the
subscriber and the operation of each operation that it is in, unless it has such fields itself or a
block further inside binds them. -/
theorem World.labelled_within (rules : Rules) {hooks : List (Hooks World)}
    (hhooks : ∀ hook ∈ hooks, ∀ w c p, hook w c = some p → p.Nested) {α : Type} {p : Program α}
    (hp : p.Nested) {fields : Log.Fields Field} (hfields : fields.keys.Nodup) {s : Scene}
    (hs : s.Tracked) :
    let run := (p.within fields).run ((World.host rules).nested hooks) s.world
    let s' := ((p.within fields).run
      ((Scene.host rules).nested (hooks.map fun hook s => hook s.world)) s).2
    s'.world = run.2 ∧ s'.frames = s.frames ∧
      (∀ k, run.2.context.get? k = s.world.context.get? k) ∧
      ∃ rs written, s'.remarks = s.remarks ++ rs ∧ run.2.events = s.world.events ++ written ∧
        List.Forall₂ (fun r e => (fields :: s.frames) <:+ r.frames ∧ e.name = r.entry.name ∧
          ∀ inner name c outer, r.frames = inner ++ Manager.frame name c :: outer →
            Manager.Labelled inner name c r.entry e) rs written := by
  intro run s'
  obtain ⟨base, hs⟩ := hs
  have hhost : ((Scene.host rules).nested (hooks.map fun hook s => hook s.world)).Scoped base := by
    refine (Scene.scoped_host rules).nested fun hook hmem s c p hp => ?_
    obtain ⟨hook', hmem', rfl⟩ := List.mem_map.1 hmem
    exact hhooks hook' hmem' s.world c p hp
  have hworld : s'.world = run.2 :=
    (congrArg Prod.snd (((Scene.host_over rules).nested hooks).run (p.within fields) s)).symm
  have hinside := hp.extends hhost (hs.enter hfields)
  have hs' : s' = (p.run ((Scene.host rules).nested (hooks.map fun hook s => hook s.world))
      (s.enter fields)).2.leave (s.world.context.save fields) :=
    congrArg Prod.snd (hhost.run_within p fields s)
  have hblock : s.Extends base s' := hs' ▸ hinside.of_block hs
  obtain ⟨rs, written, hrs, hevents, hwritten, hframes⟩ := hinside.noted
  refine ⟨hworld, hblock.frames, fun k => ?_, rs, written, ?_, ?_, ?_⟩
  · rw [← hworld, hblock.tracks k, hblock.frames, hs k]
  · rw [hs']
    exact hrs
  · rw [← hworld, hs']
    exact hevents
  · refine (List.forall₂_and_left rs written).2 ⟨hframes, hwritten.imp fun r e hre => ?_⟩
    exact ⟨hre.1, fun inner name c outer hr => hre.labelled hr⟩

namespace Sample

/-- The shipped world in which the subscriber is stored and has a customer. -/
def known : World :=
  { World.shipped with store := ⟨.ofList [(credentials.user, attached)]⟩ }

/-- The subscriber asks for a payment method. -/
def adding : Program String := Manager.addPaymentMethod credentials .stripe .ios

theorem nested_adding : adding.Nested := Manager.nested_addPaymentMethod credentials .stripe .ios

/-- Starting to add a payment method, somebody else becomes known and then a form is opened, in a
block of its own. -/
def opening (fields : Log.Fields Field) : Hooks World
  | _, .setUp _ customerId =>
    some ((Manager.updateSubscriber covered).andThen fun _ =>
      ((Program.write (.info "form_opened" [])).within fields).andThen fun _ =>
        .done (.ok customerId))
  | _, _ => none

theorem nested_opening {fields : Log.Fields Field} (h : fields.keys.Nodup) :
    ∀ hook ∈ [opening fields], ∀ w c p, hook w c = some p → p.Nested := by
  intro hook hmem w c p hp
  obtain rfl := List.mem_singleton.1 hmem
  cases c with
  | setUp q customerId =>
    obtain rfl := Option.some.inj hp
    exact (Manager.nested_updateSubscriber covered).andThen fun _ =>
      ((Program.nested_write _).within h).andThen fun _ => .done _
  | _ => cases hp

/-- The world after the subscriber has asked for a payment method, all within a block. -/
def afterOpening (fields outer : Log.Fields Field) : World :=
  ((adding.within outer).run
    ((World.host World.shipped.catalog.rules).nested [opening fields]) known).2

/-- Two events are written: when somebody else becomes known, and when the form is opened. -/
theorem remarks_opening (fields outer : Log.Fields Field) :
    ((adding.within outer).run ((Scene.host World.shipped.catalog.rules).nested
        ([opening fields].map fun hook s => hook s.world)) (.start known)).2.remarks =
      [⟨[Manager.frame "update_subscriber" covered,
          Manager.frame "add_payment_method_to_customer" credentials, outer],
          Audit.created covered.user covered.now⟩,
        ⟨[fields, Manager.frame "add_payment_method_to_customer" credentials, outer],
          .info "form_opened" []⟩] := rfl

end Sample

open Sample in
/-- A form that is opened while a payment method is added, in a block that says at which step. -/
theorem World.labelled_within_of_opening :
    let fields : Log.Fields Field := .ofList [("step", .text "form")]
    let outer : Log.Fields Field := .ofList [("request", .text "r1")]
    (∀ k, (afterOpening fields outer).context.get? k = known.context.get? k) ∧
      ∃ e ∈ (afterOpening fields outer).events, e.name = "form_opened" ∧
        e.fields.get? "subscriber" = some (.text (Subscriber.tag credentials.user)) ∧
        e.fields.get? "operation" = some (.text "add_payment_method_to_customer") := by
  intro fields outer
  have hfields : fields.keys.Nodup := by decide
  have houter : outer.keys.Nodup := by decide
  have hknown : (Scene.start known).Tracked := ⟨known.context, Scene.tracks_start known⟩
  obtain ⟨-, -, hcontext, rs, written, hrs, hevents, hlabels⟩ :=
    labelled_within shipped.catalog.rules (nested_opening hfields) nested_adding houter hknown
  rw [Scene.world_start] at hcontext hevents
  obtain rfl := hrs.symm.trans (remarks_opening _ _)
  obtain ⟨_, _, -, hrest, rfl⟩ := List.forall₂_cons_left_iff.1 hlabels
  obtain ⟨e, _, ⟨-, hname, hlabel⟩, -, rfl⟩ := List.forall₂_cons_left_iff.1 hrest
  obtain ⟨hsubscriber, hoperation⟩ := hlabel [fields] _ _ [outer] rfl
  have hunbound : Frames.bound? [fields] "subscriber" = none ∧
    Frames.bound? [fields] "operation" = none := by decide
  rw [hunbound.1] at hsubscriber
  rw [hunbound.2] at hoperation
  unfold afterOpening
  refine ⟨hcontext, e, ?_, hname, hsubscriber (by decide), hoperation (by decide)⟩
  rw [hevents]
  simp

open Sample in
/-- Where a block inside an operation binds a name that the operation binds, the events in it do not
carry what the operation has bound. -/
theorem World.not_named_of_renaming :
    ¬∀ (rules : Rules) (hooks : List (Hooks World)) (p : Program String)
      (fields : Log.Fields Field) (s : Scene),
      (∀ hook ∈ hooks, ∀ w c p, hook w c = some p → p.Nested) → p.Nested → fields.keys.Nodup →
      s.Tracked →
      let run := (p.within fields).run ((World.host rules).nested hooks) s.world
      let s' := ((p.within fields).run
        ((Scene.host rules).nested (hooks.map fun hook s => hook s.world)) s).2
      ∃ rs written, s'.remarks = s.remarks ++ rs ∧ run.2.events = s.world.events ++ written ∧
        List.Forall₂ (fun r e => ∀ inner name c outer,
          r.frames = inner ++ Manager.frame name c :: outer →
          (∀ f ∈ inner, ∀ name c, f ≠ Manager.frame name c) →
          "subscriber" ∉ r.entry.fields.keys → "operation" ∉ r.entry.fields.keys →
            e.fields.get? "subscriber" = some (.text (Subscriber.tag c.user)) ∧
              e.fields.get? "operation" = some (.text name)) rs written := by
  intro h
  let inner : Log.Fields Field := .ofList [("operation", .text "form")]
  have hinner : inner.keys.Nodup := by decide
  have hknown : (Scene.start known).Tracked := ⟨known.context, Scene.tracks_start known⟩
  obtain ⟨rs, written, hrs, hwritten, hlabels⟩ := h World.shipped.catalog.rules [opening inner]
    adding .empty (.start known) (nested_opening hinner) nested_adding List.nodup_nil hknown
  obtain rfl := hrs.symm.trans (remarks_opening _ _)
  obtain ⟨first, _, -, hrest, rfl⟩ := List.forall₂_cons_left_iff.1 hlabels
  obtain ⟨e, _, hlabel, hnil, rfl⟩ := List.forall₂_cons_left_iff.1 hrest
  obtain rfl := List.forall₂_nil_left_iff.1 hnil
  have hblock : ∀ f ∈ [inner], ∀ name c, f ≠ Manager.frame name c := by
    intro f hf name c heq
    obtain rfl := List.mem_singleton.1 hf
    have hkeys : ["operation"] = ["subscriber", "operation"] := congrArg Assoc.keys heq
    simp at hkeys
  obtain ⟨-, hoperation⟩ := hlabel [inner] _ _ [.empty] rfl hblock (by decide) (by decide)
  -- the block inside has named the operation anew
  have hform : (afterOpening inner .empty).events.getLast?.bind (·.fields.get? "operation") =
      some (.text "form") := by
    decide +kernel
  rw [Scene.world_start] at hwritten
  rw [afterOpening, hwritten, List.getLast?_append] at hform
  simp [hoperation] at hform

end Patronage
