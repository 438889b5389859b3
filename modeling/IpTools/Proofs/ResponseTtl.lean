import Mathlib.Data.List.Find
import IpTools.Proofs.MessageFrames

/-!
# The TTL of a response

The TTL is taken from the first answer of the wanted type, the first record from the first of these
answers that is decoded. The two part where an answer of the wanted type is passed over.
-/

namespace IpTools

/-- A response has a TTL exactly where it has records, and it is that of the first of them. -/
def TtlOfFirstRecord (r : ParsedDnsResponse) (answers : List DecodedAnswer) : Prop :=
  (r.ttl = none ↔ r.records = []) ∧
    ∀ a, answers.find? (fun a => a.record.isSome) = some a → r.ttl = some a.frame.ttl

/-- The first answer of the wanted type has a length that the decoder takes, or the first one of
such a length has the same TTL. -/
def FirstWantedFits (want : DnsRecordType) (fs : List AnswerFrame) : Prop :=
  ∀ f, (wantedFrames want fs).head? = some f →
    ∃ g, (wantedFrames want fs).find? (fun g => lengthFits want g.rdlen) = some g ∧ g.ttl = f.ttl

section Answers

variable {bytes : List UInt8} {want : DnsRecordType} {answers : List DecodedAnswer}

lemma find_wanted (want : DnsRecordType) (answers : List DecodedAnswer) :
    (answers.find? (fun a => isWanted want a.frame.rtype)).map DecodedAnswer.frame =
      (wantedFrames want (answers.map DecodedAnswer.frame)).head? := by
  unfold wantedFrames
  rw [List.head?_filter, List.find?_map]
  rfl

lemma find_isSome (h : ∀ a ∈ answers, Decodes bytes want a) :
    (answers.find? (fun a => a.record.isSome)).map DecodedAnswer.frame =
      (wantedFrames want (answers.map DecodedAnswer.frame)).find?
        (fun f => lengthFits want f.rdlen) := by
  unfold wantedFrames
  rw [List.find?_filter, List.find?_map]
  congr 1
  apply List.find?_congr
  intro a ha
  rw [(h a ha).isSome, Function.comp_apply, Bool.decide_and, Bool.decide_eq_true,
    Bool.decide_eq_true]

lemma filterMap_record_eq_nil_iff :
    answers.filterMap DecodedAnswer.record = [] ↔
      answers.find? (fun a => a.record.isSome) = none := by
  rw [List.filterMap_eq_nil_iff, List.find?_eq_none]
  simp

end Answers

theorem ttl_belongs_iff {bytes : List UInt8} {want : DnsRecordType} {r : ParsedDnsResponse}
    (h : parseDnsResponse bytes want = .ok r) :
    TtlOfFirstRecord r (decodedAnswers bytes want) ↔ FirstWantedFits want (answerFrames bytes) := by
  obtain ⟨⟨rcode, rfl⟩, hdecodes⟩ := accepted h
  have hframes : (decodedAnswers bytes want).map DecodedAnswer.frame = answerFrames bytes := by
    unfold decodedAnswers
    rw [List.map_map]
    exact List.map_id _
  have hwanted := find_wanted want (decodedAnswers bytes want)
  have hsome := find_isSome hdecodes
  rw [hframes] at hwanted hsome
  have himp : (decodedAnswers bytes want).find? (fun a => isWanted want a.frame.rtype) = none →
      (decodedAnswers bytes want).find? (fun a => a.record.isSome) = none := by
    intro hnone
    rw [List.find?_eq_none] at hnone ⊢
    intro a ha hrecord
    rw [(hdecodes a ha).isSome, Bool.and_eq_true] at hrecord
    exact hnone a ha hrecord.1
  unfold TtlOfFirstRecord FirstWantedFits responseOf
  dsimp only
  rw [filterMap_record_eq_nil_iff, Option.map_eq_none_iff, ← hwanted, ← hsome]
  generalize (decodedAnswers bytes want).find? (fun a => isWanted want a.frame.rtype) = wanted at *
  generalize (decodedAnswers bytes want).find? (fun a => a.record.isSome) = first at *
  cases wanted with
  | none =>
    rw [himp rfl]
    simp
  | some w =>
    cases first with
    | none => simp
    | some a => simp [eq_comm]

/-- The response to a query that was answered with one address. -/
theorem ttl_belongs_address :
    TtlOfFirstRecord ⟨0, some 60, [.a (.new 192 0 2 1)], false⟩
      (decodedAnswers (oneAnswer 1 [192, 0, 2, 1] []) .a) := by
  have hparse : parseDnsResponse (oneAnswer 1 [192, 0, 2, 1] []) .a =
      .ok ⟨0, some 60, [.a (.new 192 0 2 1)], false⟩ :=
    @parse_oneAnswer .a 1 [192, 0, 2, 1] [] (by decide) (some (.a (.new 192 0 2 1))) rfl
  refine (ttl_belongs_iff hparse).mpr ?_
  rw [answerFrames, messageFrames_oneAnswer 1 [] (by decide)]
  intro f hf
  cases hf
  exact ⟨_, rfl, rfl⟩

/-- An address of no bytes is passed over, after its TTL was taken. -/
theorem ttl_of_skipped_answer :
    ∃ r, parseDnsResponse (oneAnswer 1 [] []) .a = .ok r ∧ r.ttl = some 60 ∧ r.records = [] ∧
      ¬TtlOfFirstRecord r (decodedAnswers (oneAnswer 1 [] []) .a) := by
  have hparse : parseDnsResponse (oneAnswer 1 [] []) .a = .ok ⟨0, some 60, [], false⟩ :=
    @parse_oneAnswer .a 1 [] [] (by decide) none rfl
  exact ⟨_, hparse, rfl, rfl, fun h => absurd (h.1.mpr rfl) (by decide)⟩

end IpTools
