import Mathlib.Data.List.Infix
import TankGauge.Topics

/-!
# Texts cut down to size

A text that is too long for its place loses its end, and the cut goes between two characters. Since
a character takes one to four bytes, up to three bytes of the place may stay free: the first
character that does not fit ends the text, even if a later one would fit
(`LongestLead.of_unfit`).

What is kept is the longest beginning of the text that fits (`BoundedText.longestLead_truncate`),
and no text has two of these (`LongestLead.unique`). So a topic is all of the text that it is made
from or at least 61 bytes of it, and two texts that make the same topic have that much in common.
-/

namespace TankGauge

/-- `lead` is the longest beginning of `s`, cut between two characters, that takes at most `cap`
bytes. -/
structure LongestLead (cap : Nat) (s lead : String) : Prop where
  leads : lead.toList <+: s.toList
  fits : lead.utf8ByteSize ≤ cap
  longest : ∀ p : String, p.toList <+: s.toList → p.utf8ByteSize ≤ cap → p.toList <+: lead.toList

namespace LongestLead

variable {cap : Nat} {s lead : String}

/-- Behind a beginning stand the remaining characters. -/
theorem exists_rest {p : String} (leads : p.toList <+: s.toList) :
    ∃ rest : List Char, s = p ++ String.ofList rest := by
  obtain ⟨rest, hrest⟩ := leads
  refine ⟨rest, String.toList_inj.mp ?_⟩
  rw [String.toList_append, String.toList_ofList, hrest]

theorem prefix_append (s rest : String) : s.toList <+: (s ++ rest).toList := by
  rw [String.toList_append]
  exact List.prefix_append _ _

/-- A text has one longest beginning that fits. -/
theorem unique {lead' : String} (h : LongestLead cap s lead) (h' : LongestLead cap s lead') :
    lead = lead' := by
  have hle := h'.longest lead h.leads h.fits
  have hge := h.longest lead' h'.leads h'.fits
  exact String.toList_inj.mp (hle.eq_of_length_le hge.length_le)

/-- A text that fits is its own longest beginning that fits. -/
theorem self (fits : s.utf8ByteSize ≤ cap) : LongestLead cap s s :=
  ⟨List.prefix_refl _, fits, fun _ leads _ => leads⟩

/-- A beginning that fits is the longest one if the next character does not fit, whatever stands
behind that character. -/
theorem of_unfit {c : Char} {rest : String} (fits : lead.utf8ByteSize ≤ cap)
    (unfit : cap < lead.utf8ByteSize + c.utf8Size) :
    LongestLead cap (lead ++ (String.singleton c ++ rest)) lead := by
  refine ⟨prefix_append _ _, fits, fun p leads pfits => ?_⟩
  rcases List.prefix_or_prefix_of_prefix leads (prefix_append _ _) with hshort | hlong
  · exact hshort
  obtain ⟨more, rfl⟩ := exists_rest hlong
  cases more with
  | nil => rw [String.ofList_nil, String.append_empty]
  | cons d more =>
    -- A longer beginning would go on with the character that does not fit.
    rw [String.toList_append, String.toList_append, List.prefix_append_right_inj,
      String.toList_append, String.toList_singleton, String.toList_ofList, List.singleton_append,
      List.cons_prefix_cons] at leads
    obtain ⟨rfl, -⟩ := leads
    rw [String.utf8ByteSize_append, String.ofList_cons, String.utf8ByteSize_append,
      String.utf8ByteSize_singleton] at pfits
    omega

/-- The longest beginning that fits is the whole text, or leaves at most three bytes free. -/
theorem eq_or_lt (h : LongestLead cap s lead) : lead = s ∨ cap < lead.utf8ByteSize + 4 := by
  obtain ⟨rest, rfl⟩ := exists_rest h.leads
  cases rest with
  | nil => exact .inl String.append_empty.symm
  | cons c rest =>
    right
    -- With one character more the beginning is too long, since it is not the longest then.
    have hsize : (lead ++ String.singleton c).utf8ByteSize = lead.utf8ByteSize + c.utf8Size := by
      rw [String.utf8ByteSize_append, String.utf8ByteSize_singleton]
    have hlonger : (lead ++ String.singleton c).toList <+:
        (lead ++ String.ofList (c :: rest)).toList := by
      rw [String.ofList_cons, ← String.append_assoc]
      exact prefix_append _ _
    have hunfit : ¬ (lead ++ String.singleton c).utf8ByteSize ≤ cap := by
      intro fits
      have hlength := (h.longest _ hlonger fits).length_le
      rw [String.toList_append, String.toList_singleton, List.length_append,
        List.length_singleton] at hlength
      omega
    have hfour := c.utf8Size_le_four
    omega

end LongestLead

/-! ## Writing up to a character that does not fit -/

namespace BoundedText

variable {cap : Nat}

/-- Characters are written behind a text as long as they fit. -/
theorem longestLead_writeWhileFits (t : BoundedText cap) (cs : List Char) :
    LongestLead cap (t.text ++ String.ofList cs) (t.writeWhileFits cs).text := by
  induction cs generalizing t with
  | nil =>
    rw [String.ofList_nil, String.append_empty]
    exact .self t.fits
  | cons c rest ih =>
    rw [String.ofList_cons]
    by_cases fits : t.text.utf8ByteSize + c.utf8Size ≤ cap
    · have hnext : t.writeWhileFits (c :: rest) =
          (t.write (String.singleton c)).writeWhileFits rest := by
        simp [writeWhileFits, write, append?, ofString?, fits]
      have htext : (t.write (String.singleton c)).text = t.text ++ String.singleton c :=
        text_write_of_fits (by rw [String.utf8ByteSize_singleton]; exact fits)
      rw [hnext, ← String.append_assoc, ← htext]
      exact ih _
    · have hlast : t.writeWhileFits (c :: rest) = t := by
        simp [writeWhileFits, append?, ofString?, fits]
      rw [hlast]
      exact .of_unfit t.fits (Nat.lt_of_not_le fits)

/-- What is kept of a text that is cut down to size is the longest beginning that fits. -/
theorem longestLead_truncate (s : String) :
    LongestLead cap s (truncate s : BoundedText cap).text := by
  have h := longestLead_writeWhileFits (empty : BoundedText cap) s.toList
  have hempty : (empty : BoundedText cap).text ++ s = s := String.empty_append
  rw [String.ofList_toList, hempty] at h
  exact h

end BoundedText

/-! ## Topics -/

namespace Topic

/-- A text makes one topic: its longest beginning that fits. -/
theorem text_ofString_iff {s t : String} : (ofString s).text = t ↔ LongestLead 64 s t := by
  have h : LongestLead 64 s (ofString s).text := BoundedText.longestLead_truncate s
  exact ⟨fun same => same ▸ h, h.unique⟩

/-- A text that fits is all of its topic, and no other is. -/
theorem text_ofString_eq_self_iff {s : String} : (ofString s).text = s ↔ s.utf8ByteSize ≤ 64 :=
  ⟨fun same => same ▸ (ofString s).fits, fun fits => text_ofString_iff.mpr (.self fits)⟩

/-- A topic is the longest beginning, cut between two characters, of the text that it is made from
that takes at most 64 bytes. From the first character on that does not fit, nothing is taken, be it
ever so short. So a text is its own topic if and only if it takes at most 64 bytes, to make a topic
of a topic changes nothing, and two texts that make the same topic are the same or have a beginning
of more than 60 bytes in common. -/
theorem longest_lead (s : String) :
    (∀ t : String, (ofString s).text = t ↔ LongestLead 64 s t) ∧
      (∀ (t : String) (c : Char) (rest : String), s = t ++ (String.singleton c ++ rest) →
        t.utf8ByteSize ≤ 64 → 64 < t.utf8ByteSize + c.utf8Size → (ofString s).text = t) ∧
      ((ofString s).text = s ↔ s.utf8ByteSize ≤ 64) ∧
      ofString (ofString s).text = ofString s ∧
      ∀ s' : String, ofString s' = ofString s →
        s' = s ∨ ∃ p : String, p.toList <+: s.toList ∧ p.toList <+: s'.toList ∧
          60 < p.utf8ByteSize := by
  refine ⟨fun t => text_ofString_iff, ?_, text_ofString_eq_self_iff, ?_, ?_⟩
  · rintro t c rest rfl fits unfit
    exact text_ofString_iff.mpr (.of_unfit fits unfit)
  · exact BoundedText.ext (text_ofString_eq_self_iff.mpr (ofString s).fits)
  · intro s' same
    have h : LongestLead 64 s (ofString s).text := text_ofString_iff.mp rfl
    have h' : LongestLead 64 s' (ofString s).text := text_ofString_iff.mp (by rw [same])
    rcases h.eq_or_lt with hself | hlong
    · rcases h'.eq_or_lt with hself' | hlong
      · exact .inl (hself'.symm.trans hself)
      · exact .inr ⟨_, h.leads, h'.leads, by omega⟩
    · exact .inr ⟨_, h.leads, h'.leads, by omega⟩

/-- An accented letter that takes the bytes 64 and 65 ends the topic, although the plain letter
behind it would fit. A text that goes on in another way from there makes the same topic. -/
theorem longest_lead_of_accent :
    let t := String.ofList (List.replicate 63 'a')
    let s := t ++ (String.singleton 'é' ++ "b")
    let s' := t ++ (String.singleton 'ü' ++ "")
    t.utf8ByteSize ≤ 64 ∧ 64 < t.utf8ByteSize + 'é'.utf8Size ∧ (ofString s).text = t ∧
      ofString s' = ofString s ∧
      ∃ p : String, p.toList <+: s.toList ∧ p.toList <+: s'.toList ∧ 60 < p.utf8ByteSize := by
  intro t s s'
  have hfits : t.utf8ByteSize ≤ 64 := by decide
  have hunfit : 64 < t.utf8ByteSize + 'é'.utf8Size := by decide
  have htext : (ofString s).text = t := (longest_lead s).2.1 t 'é' "b" rfl hfits hunfit
  have htext' : (ofString s').text = t := (longest_lead s').2.1 t 'ü' "" rfl hfits hunfit
  have hsame : ofString s' = ofString s := BoundedText.ext (htext'.trans htext.symm)
  have hne : s' ≠ s := by decide
  exact ⟨hfits, hunfit, htext, hsame, ((longest_lead s).2.2.2.2 s' hsame).resolve_left hne⟩

end Topic

end TankGauge
