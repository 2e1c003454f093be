import Patronage.Proofs.Reading
import Patronage.Proofs.Utf8
import Patronage.Settings.File
/-!
# Settings files whose faults are reported

A settings file that cannot be used should be reported with what is wrong with it.  Whatever parser
reads its contents, that is so where the parser tells that there is no document, and for a document
that says nothing or is a mapping from names.  It is not so for any other error of the parser, which
passes through as it is, and for a document that is no mapping from names.  Main statements:

* `Settings.answers_iff` — which settings files are accepted or reported;
* `Settings.not_answers_of_list` — some that are neither.
-/

namespace Patronage

open Text

namespace LoadError

/-- It is reported what is wrong with the file. -/
def IsReported (e : LoadError) : Prop := e.message?.isSome

instance (e : LoadError) : Decidable e.IsReported :=
  inferInstanceAs (Decidable (e.message?.isSome = true))

end LoadError

/-- A value that says nothing, or a mapping whose keys are all text. -/
def Value.IsRecord (v : Value) : Prop :=
  v.isVoid ∨ ∃ fields, v = .map fields ∧
    ∀ e ∈ fields, (∃ s, e.1 = .text s) ∨ e.1 = .brokenText

/-! ### Outcomes of parsing -/

namespace Parsed

/-- Apart from its own error a parser ends in no error that is reported: those are for what is read
of a document, which a parser knows nothing of. -/
def Foreign (parsed : Parsed) : Prop := ∀ e, parsed = .failed e → ¬e.IsReported

theorem foreign_ofText (cs : List Char) : (ofText cs).Foreign := by
  intro e h
  unfold ofText at h
  split at h
  · cases h
  · cases h
  · rename_i f hf _
    obtain rfl := Parsed.failed.inj h
    cases f with
    | malformed => exact absurd rfl hf
    | _ => exact nofun

/-- The parser of texts in YAML ends in no error that is reported apart from its own. -/
theorem foreign_ofBytes (b : Bytes) : (ofBytes b).Foreign := by
  unfold ofBytes
  cases decodeUtf8 b with
  | none =>
    rintro _ ⟨⟩
    exact nofun
  | some cs => exact foreign_ofText cs

/-- A file that is to be in YAML and fails in any other way than by being no document is no UTF-8, or
its text fails in the tokens, is nested too deeply, or has a scalar whose characters denote nothing
under the tag of a node. -/
theorem cause_of_failed {b : Bytes} {e : LoadError} (h : ofBytes b = .failed e) :
    (e = .undecodable ∧ ∀ cs, b ≠ encodeUtf8 cs) ∨ ∃ cs f, b = encodeUtf8 cs ∧ e = .document f ∧
      let tokens := Yaml.tokens (normalizeBreaks cs)
      (tokens.failure = some f ∨ f = .tooDeep ∨
        ∃ root tag c, Yaml.Node.ofTokens tokens = .ok (some root) ∧ root.Writes c ∧
          Yaml.Built.scalarOf tag c.chars = .error f) := by
  unfold ofBytes at h
  cases hdecode : decodeUtf8 b with
  | none =>
    rw [hdecode] at h
    refine .inl ⟨(Parsed.failed.inj h).symm, ?_⟩
    rintro cs rfl
    cases hdecode.symm.trans (decodeUtf8_encodeUtf8 cs)
  | some cs =>
    rw [hdecode] at h
    change ofText cs = .failed e at h
    unfold ofText at h
    split at h
    · cases h
    · cases h
    · rename_i f hf hload
      exact .inr ⟨cs, f, decodeUtf8_eq_some_iff.1 hdecode, (Parsed.failed.inj h).symm,
        Yaml.failure_of_load hload hf⟩

/-- Whether parsing ends in a given error. -/
def failsIn (e : LoadError) : Parsed → Bool
  | .failed e' => e' = e
  | _ => false

theorem eq_failed_of_failsIn {e : LoadError} {parsed : Parsed} (h : parsed.failsIn e) :
    parsed = .failed e := by
  cases parsed with
  | failed e' => exact congrArg Parsed.failed (of_decide_eq_true h)
  | _ => cases h

end Parsed

/-! ### Files that are accepted or reported -/

namespace Settings

/-- Settings are read, or it is reported what is wrong with the file. -/
def Answers (r : Except LoadError Settings) : Prop :=
  (∃ s, r = .ok s) ∨ ∃ e, r = .error e ∧ e.IsReported

theorem answers_error {e : LoadError} : Answers (.error e) ↔ e.IsReported := by
  constructor
  · rintro (⟨s, hs⟩ | ⟨e, ⟨⟩, he⟩)
    · cases hs
    · exact he
  · exact fun h => .inr ⟨e, rfl, h⟩

instance (r : Except LoadError Settings) : Decidable (Answers r) :=
  match r with
  | .ok s => .isTrue (.inl ⟨s, rfl⟩)
  | .error _ => decidable_of_iff' _ answers_error

theorem hasNames_iff {fields : Fields} :
    hasNames fields ↔ ∀ e ∈ fields, (∃ s, e.1 = .text s) ∨ e.1 = .brokenText := by
  rw [hasNames, List.all_eq_true]
  refine forall₂_congr fun e _ => ?_
  cases e.1 <;> simp

/-- A document gives settings or is reported, or it is no record. -/
theorem ofDocument_cases (path : String) (v : Value) :
    (v.IsRecord ∧ Answers (ofDocument path v)) ∨
      (¬v.IsRecord ∧ ofDocument path v = .error .nameless) := by
  unfold ofDocument Value.IsRecord
  by_cases hvoid : v.isVoid
  · rw [if_pos hvoid, answers_error]
    exact .inl ⟨.inl hvoid, rfl⟩
  rw [if_neg hvoid, or_iff_right hvoid]
  cases v with
  | map fields =>
    dsimp only
    split
    · rename_i hnames
      refine .inl ⟨⟨fields, rfl, hasNames_iff.1 hnames⟩, ?_⟩
      cases ofFields fields with
      | ok s => exact .inl ⟨s, rfl⟩
      | error issues => exact .inr ⟨_, rfl, rfl⟩
    · rename_i hnames
      refine .inr ⟨?_, rfl⟩
      rintro ⟨_, ⟨⟩, hfields⟩
      exact hnames (hasNames_iff.2 hfields)
  | _ =>
    refine .inr ⟨?_, rfl⟩
    rintro ⟨_, h, _⟩
    cases h

theorem answers_ofDocument_iff {path : String} {v : Value} :
    Answers (ofDocument path v) ↔ v.IsRecord := by
  obtain ⟨hrecord, hanswers⟩ | ⟨hrecord, herror⟩ := ofDocument_cases path v
  · exact iff_of_true hanswers hrecord
  · rw [herror, answers_error]
    exact iff_of_false nofun hrecord

/-- Reading a settings file, at first or again, with any parser that leaves the errors of reading
settings alone: the file is accepted, or it is reported what is wrong with it, exactly if it is
missing, or the parser tells that its contents are no document, or they are one that says nothing or
is a mapping from names.  What is not reported is the error that the parser ended in, or that the
document is no mapping from names. -/
theorem answers_iff {parse : Bytes → Parsed} (hparse : ∀ b, (parse b).Foreign) (path : String)
    (contents : Option Bytes) :
    (Answers (ofParsed path (contents.map parse)) ↔
      ∀ b, contents = some b →
        parse b = .rejected ∨ ∃ v, parse b = .document v ∧ v.IsRecord) ∧
    ∀ e, ofParsed path (contents.map parse) = .error e → ¬e.IsReported →
      ∃ b, contents = some b ∧
        (parse b = .failed e ∨ e = .nameless ∧ ∃ v, parse b = .document v ∧ ¬v.IsRecord) := by
  cases contents with
  | none =>
    refine ⟨iff_of_true (answers_error.2 rfl) nofun, ?_⟩
    rintro e ⟨⟩ hunreported
    exact absurd rfl hunreported
  | some b =>
    simp only [Option.map_some, Option.some.injEq, forall_eq', exists_eq_left']
    cases hb : parse b with
    | rejected =>
      refine ⟨iff_of_true (answers_error.2 rfl) (.inl rfl), ?_⟩
      rintro e ⟨⟩ hunreported
      exact absurd rfl hunreported
    | failed e =>
      refine ⟨iff_of_false (fun h => hparse b e hb (answers_error.1 h)) ?_, ?_⟩
      · rintro (h | ⟨v, h, -⟩) <;> cases h
      · rintro _ ⟨⟩ -
        exact .inl rfl
    | document v =>
      change (Answers (ofDocument path v) ↔ _) ∧ ∀ e, ofDocument path v = .error e → _
      constructor
      · rw [answers_ofDocument_iff]
        simp
      · intro e he hunreported
        obtain ⟨-, hanswers⟩ | ⟨hrecord, hnameless⟩ := ofDocument_cases path v
        · rw [he, answers_error] at hanswers
          exact absurd hanswers hunreported
        · exact .inr ⟨Except.error.inj (he.symm.trans hnameless), v, rfl, hrecord⟩

end Settings

namespace Sample

/-- A settings file that is a list, not a mapping. -/
def listFile : Bytes := encodeUtf8 "- 1\n".toList

/-- A settings file with a date that the calendar does not have. -/
def dateFile : Bytes := encodeUtf8 "badge_expiration: 2024-02-31\n".toList

end Sample

open Sample Settings

/-- With the parser of texts in YAML, a date that the calendar does not have stands in a scalar. -/
theorem Settings.answers_iff_of_date :
    (∀ b, (Parsed.ofBytes b).Foreign) ∧
      Parsed.ofBytes dateFile = .failed (.document .badValue) ∧
      ¬Answers (ofParsed "subscriptions.yaml" ((some dateFile).map .ofBytes)) := by
  have hparse : Parsed.ofBytes dateFile = .failed (.document .badValue) :=
    Parsed.eq_failed_of_failsIn (by decide +kernel)
  refine ⟨Parsed.foreign_ofBytes, hparse, ?_⟩
  rw [(answers_iff Parsed.foreign_ofBytes "subscriptions.yaml" (some dateFile)).1]
  intro h
  obtain h | ⟨v, h, -⟩ := h dateFile rfl <;> cases hparse.symm.trans h

/-- A list is neither accepted nor reported, whatever parser it comes from; and in YAML that is so
for a file that is a list, for a date that the calendar does not have, and for a byte that is no
UTF-8. -/
theorem Settings.not_answers_of_list :
    (∀ path, ¬Answers (ofParsed path (some (.document (.list [.int 1]))))) ∧
      ¬Answers (read "subscriptions.yaml" (.bytes listFile)) ∧
      ¬Answers (read "subscriptions.yaml" (.bytes dateFile)) ∧
      ¬Answers (read "subscriptions.yaml" (.bytes [0xFF])) := by
  refine ⟨fun path => ?_, by decide +kernel, by decide +kernel, by decide +kernel⟩
  rintro (⟨s, hs⟩ | ⟨e, ⟨⟩, he⟩)
  · cases hs
  · cases he

end Patronage
