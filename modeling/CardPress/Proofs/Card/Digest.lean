import CardPress.Proofs.Card.Definition
import CardPress.Proofs.Digest

/-!
# What canonical texts and their digests tell

A canonical text says all that counts about what it is the text of: about a definition from a file,
which is equal to every other definition with that text, and about a document, which differs from
the others with that text in the order of members at most. So the digest of a definition tells it as
well as the digest function tells texts.

## Main definitions

* `CardDefinition.FromFile` — definitions of a deck that some text gives.

## Main results

* `CardDefinition.identical_or_collide` — what one digest of two definitions says about them.
* `canonicalText_faithful` — all that canonical texts tell.
-/

namespace CardPress

namespace CardDefinition

variable {d e : CardDefinition}

/-- The definition is one of those that some text gives. -/
def FromFile (d : CardDefinition) : Prop :=
  ∃ text deck, Deck.parse text = .ok deck ∧ d ∈ deck.definitions

theorem FromFile.loaded (h : d.FromFile) : d.Loaded := by
  obtain ⟨text, deck, hparse, hd⟩ := h
  exact loaded_of_parse hparse hd

/-- Definitions with one digest are equal, and so are their faces, unless their texts are a
collision. -/
theorem identical_or_collide (hd : d.Loaded) (he : e.Loaded) (h : d.hash = e.hash) :
    (d.Identical e ∧ ∀ serial, (d.face serial).Identical (e.face serial)) ∨
      Sha256.Collide d.canonicalText.toUTF8 e.canonicalText.toUTF8 := by
  obtain htext | hcollide := Sha256.eq_or_collide h
  · have hidentical := (canonicalText_eq_canonicalText_iff hd he).1 htext
    exact .inl ⟨hidentical, hidentical.face⟩
  · exact .inr hcollide

end CardDefinition

/-- Definitions from files have one canonical text if they are equal and only then, so that one
digest means equal definitions and faces unless it is that of a collision. Documents have one
canonical text if they are equal up to the order of members and only then. A canonical text of a
document that nests as deep as the reader lets it is read as a document with the same canonical
text. -/
theorem canonicalText_faithful :
    (∀ d e : CardDefinition, d.FromFile → e.FromFile →
      (d.canonicalText = e.canonicalText ↔ d.Identical e) ∧
        (d.hash = e.hash →
          (d.Identical e ∧ ∀ serial, (d.face serial).Identical (e.face serial)) ∨
            Sha256.Collide d.canonicalText.toUTF8 e.canonicalText.toUTF8)) ∧
    (∀ a b : Json, a.Valid → b.Valid → (a.canonicalText = b.canonicalText ↔ a.Reordered b)) ∧
    ∀ j : Json, j.Valid → j.nesting ≤ 127 →
      ∃ k, Json.read j.canonicalText = .ok k ∧ k.canonicalText = j.canonicalText := by
  refine ⟨fun d e hd he => ?_, fun a b => Json.canonicalText_eq_iff, fun j hj hdepth => ?_⟩
  · exact ⟨CardDefinition.canonicalText_eq_canonicalText_iff hd.loaded he.loaded,
      CardDefinition.identical_or_collide hd.loaded he.loaded⟩
  · exact ⟨j.canonical, Json.read_canonicalText hj.numbersFit hdepth⟩

/-! ## Two definitions, and a document in two orders -/

def ace : CardDefinition := { CardDefinition.empty with
  label := some "ace"
  steps := [.mapping ⟨[("kind", .string "fill"), ("tone", .null)]⟩] }

def aceText : String :=
  "[\x7b\"label\":\"ace\",\"steps\":[\x7b\"tone\":null,\"kind\":\"fill\"\x7d]\x7d]"

def fadedAce : CardDefinition := { CardDefinition.empty with
  label := some "ace"
  template := some "faded"
  steps := [.mapping ⟨[("kind", .string "fill"), ("tone", .null)]⟩] }

def fadedAceText : String :=
  "[\x7b\"template\":\"faded\",\"label\":\"ace\"," ++
    "\"steps\":[\x7b\"kind\":\"fill\",\"tone\":null\x7d]\x7d]"

def pips : List (String × Json) :=
  [("suit", .string "spades"), ("pips", .array [.int 1, .bool true])]

theorem valid_pips {members : List (String × Json)} (h : members.Perm pips) :
    Json.Valid (.object members) where
  numbersFit := by
    refine .object fun m hm => ?_
    have hfit : ∀ m ∈ pips, m.2.NumbersFit := by
      simp [pips, Json.holdsInt, Json.NumbersFit.string, Json.NumbersFit.bool]
    exact hfit m (h.mem_iff.1 hm)
  keysApart := by
    refine .object ((h.map _).nodup_iff.2 (by decide)) fun m hm => ?_
    have hapart : ∀ m ∈ pips, m.2.KeysApart := by
      simp [pips, Json.keysApart_array, Json.KeysApart.string, Json.KeysApart.int,
        Json.KeysApart.bool]
    exact hapart m (h.mem_iff.1 hm)

set_option maxRecDepth 100000 in
theorem canonicalText_faithful_ace :
    Deck.parse aceText = .ok ⟨[ace]⟩ ∧ Deck.parse fadedAceText = .ok ⟨[fadedAce]⟩ ∧
      ace.canonicalText ≠ fadedAce.canonicalText ∧
      (Json.object pips).canonicalText = (Json.object pips.reverse).canonicalText ∧
      ∃ k, Json.read (Json.object pips).canonicalText = .ok k ∧
        k.canonicalText = (Json.object pips).canonicalText := by
  have hace : Deck.parse aceText = .ok ⟨[ace]⟩ := by cbv
  have hfaded : Deck.parse fadedAceText = .ok ⟨[fadedAce]⟩ := by cbv
  have hpips := valid_pips (List.Perm.refl pips)
  obtain ⟨hdefinitions, hdocuments, hread⟩ := canonicalText_faithful
  have hiff := (hdefinitions ace fadedAce ⟨aceText, _, hace, List.mem_singleton_self _⟩
    ⟨fadedAceText, _, hfaded, List.mem_singleton_self _⟩).1
  refine ⟨hace, hfaded, fun htext => ?_, ?_, hread _ hpips (by decide)⟩
  · cases (hiff.1 htext).template
  · exact (hdocuments _ _ hpips (valid_pips (List.reverse_perm _))).2
      (Json.reordered_of_perm hpips.keysApart (List.reverse_perm _).symm)

end CardPress
