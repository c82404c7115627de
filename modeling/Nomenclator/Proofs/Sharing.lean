import Nomenclator.Proofs.Ranking
import Nomenclator.Proofs.Sources

/-!
# Why questions may share a place

Two questions about a resource share a place in a cache when they have the same
effective language, whatever their fallbacks are. What was chosen for one of them is
then told to the other, so the fallbacks had better not matter.

They differ all right. Without a language of its own a question has the default
languages as they were configured, repetitions included; a language that is given is
trimmed and lowered, put in front, and nothing is repeated behind it. But a
repetition never counts when languages are ranked, and neither does the effective
language among the fallbacks. What is ranked is therefore the effective language in
front of the defaults, in both cases, and the choice depends on nothing else.
-/

namespace Nomenclator.Language

open Lookup (languagesFor)

/-! ## The languages of a question -/

theorem unseen_sublist (known ts : List Tag) :
    (Preference.unseen known ts).Sublist ts := by
  induction ts generalizing known with
  | nil => exact .slnil
  | cons t ts ih =>
      rw [Preference.unseen]
      split
      · exact (ih known).cons t
      · exact (ih (known ++ [t])).cons_cons t

/-- A language in front of others: all of them, each at its first place. -/
theorem tags_withPrimary (primary : Tag) (base : Preference) :
    (Preference.withPrimary primary base).tags = distinct (primary :: base.tags) :=
  (distinctAfter_tags [primary] base.tags).symm

theorem fallbacks_withPrimary (primary : Tag) (base : Preference) :
    (Preference.withPrimary primary base).fallbacks =
      (distinct base.tags).filter fun t => !(t == primary) := by
  have htags := tags_withPrimary primary base
  rw [distinct_cons] at htags
  exact (List.cons.inj htags).2

/-- To trim a tag once more changes nothing. -/
theorem Tag.ofString_trimmed (s : String) : ofString (Text.trimmed s) = ofString s := by
  have hnormal : normalise (Text.trimmed s) = normalise s := by
    unfold normalise Text.trimmed
    rw [String.toList_ofList, Text.trim_idem]
  unfold ofString
  congr 1

theorem languagesFor_some (defaults : Preference) (s : String) :
    languagesFor defaults (some s) = .withPrimary (.ofString s) defaults := by
  show Preference.withPrimary (.ofString (Text.trimmed s)) defaults = _
  rw [Tag.ofString_trimmed]

/-! ## The choice -/

/-- Two questions to the same defaults with the same effective language share a place
in a cache for every resource, and the same text is chosen for both, at the same place
among the texts. A language that is given stands in front in its normal form, and
behind it the other defaults in their order, none of them twice. -/
theorem choice_determined (defaults : Preference) :
    (∀ p q : Option String,
      (languagesFor defaults p).effective = (languagesFor defaults q).effective →
      (∀ id, ((⟨id, languagesFor defaults p⟩ : Cache.Key) ==
        ⟨id, languagesFor defaults q⟩) = true) ∧
      ∀ texts,
        choose (languagesFor defaults p).effective (languagesFor defaults p).fallbacks texts =
          choose (languagesFor defaults q).effective (languagesFor defaults q).fallbacks
            texts ∧
        chosenIndex (languagesFor defaults p).effective (languagesFor defaults p).fallbacks
            texts =
          chosenIndex (languagesFor defaults q).effective (languagesFor defaults q).fallbacks
            texts) ∧
    ∀ s : String,
      (languagesFor defaults (some s)).tags.Nodup ∧
      (languagesFor defaults (some s)).effective = .ofString s ∧
      (languagesFor defaults (some s)).fallbacks =
        (distinct defaults.tags).filter (fun t => !(t == .ofString s)) ∧
      (languagesFor defaults (some s)).fallbacks.Sublist defaults.tags := by
  refine ⟨fun p q heffective => ⟨fun id => ?_, fun texts => ?_⟩, fun s => ?_⟩
  · exact Cache.Key.beq_iff.2 (congrArg (Prod.mk id) heffective)
  · have husual : ∀ preferred id,
        (⟨id, languagesFor defaults preferred⟩ : Cache.Key).Usual defaults :=
      fun preferred _ => ⟨preferred, rfl⟩
    have hchoose := (husual p "").choose_congr (husual q "") heffective texts
    exact ⟨hchoose, congrArg (Option.map texts.idxOf) hchoose⟩
  · rw [languagesFor_some]
    refine ⟨?_, rfl, fallbacks_withPrimary _ defaults, unseen_sublist _ defaults.tags⟩
    rw [tags_withPrimary]
    exact unrepeated_iff_nodup.1 (distinct_unrepeated _)

/-- The defaults repeat a language, and the question asks for the first of them, in
another spelling: either way German is behind English and in front of French. -/
theorem choice_determined_repeated_default :
    let defaults : Preference :=
      ⟨.ofString "en", [.ofString "de", .ofString "en", .ofString "fr"]⟩
    let asked : Preference := languagesFor defaults (some " EN ")
    let texts : List TextValue := [.tagged "Maison" "fr", .tagged "Haus" "de", .plain "Plain"]
    (languagesFor defaults none).effective = asked.effective ∧
      languagesFor defaults none ≠ asked ∧
      chosenIndex defaults.effective defaults.fallbacks texts =
        chosenIndex asked.effective asked.fallbacks texts ∧
      chosenIndex asked.effective asked.fallbacks texts = some 1 := by
  intro defaults asked texts
  have heffective : (languagesFor defaults none).effective = asked.effective := by decide
  have hsame := (choice_determined defaults).1 none (some " EN ") heffective
  exact ⟨heffective, by decide, (hsame.2 texts).2, by decide⟩

end Nomenclator.Language
