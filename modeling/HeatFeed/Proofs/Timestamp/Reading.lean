import HeatFeed.Proofs.Timestamp.Notes

/-!
# Timestamps that are read

A text is read as a timestamp iff it is that of a spelling that fits, and then as the point in time
that is spelt. So just these texts are shown in another form than they were received in. Some of
them are no RFC 3339 date-times: they leave out seconds, minutes or the marks between the parts,
have a year with a sign, a fraction behind a comma, an offset without minutes, with seconds or of a
day or more, or notes in brackets.
-/

namespace HeatFeed.Timestamp

/-! ### Days -/

/-- The minutes of an RFC 3339 date-time end with a colon. -/
theorem IsRfc3339.colon {raw : String} (h : IsRfc3339 raw) : raw.toList[16]? = some ':' := by
  obtain ⟨⟨year, hyphens, month, day, separator, time, offset, zone, tags⟩, -,
    ⟨⟨n, rfl⟩, hyphens, full, -, -⟩, text⟩ := h
  cases hyphens
  rw [← text]
  cases time with
  | hours | minutes => cases full
  | seconds =>
    obtain ⟨colons, -⟩ := full
    cases colons
    rfl

end HeatFeed.Timestamp
