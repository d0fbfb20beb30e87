import HeatFeed.Proofs.Timestamp.Amounts

/-!
# Notes that are read

Behind an offset there may be notes in brackets, of a zone first and then of other things. Reading
them splits at marks that their parts are free of, and finds just the zones and tags that are
spelt.
-/

namespace HeatFeed.Timestamp

/-! ### Words between separators -/

theorem IsWord.mem {first further : Char → Prop} {word : List Char} (h : IsWord first further word)
    {c : Char} (mem : c ∈ word) : first c ∨ further c := by
  obtain ⟨d, cs, rfl, start, all⟩ := h
  rcases List.mem_cons.1 mem with rfl | later
  · exact .inl start
  · exact .inr (all c later)

end HeatFeed.Timestamp
