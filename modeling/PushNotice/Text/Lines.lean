import PushNotice.Text.Blank
import PushNotice.Text.Split

/-!
# PushNotice.Text.Lines

**Lines of a text.** A text is cut at every line feed; the lines of an input are those pieces
without the blanks around them, empty ones left out.
-/

namespace PushNotice.Text

/-- The trimmed lines of a text that are not blank. -/
def trimmedLines (s : String) : List String :=
  ((splitAtMark '\n' s.toList).map trim).filterMap fun line =>
    if line = [] then none else some (String.ofList line)

theorem of_mem_trimmedLines {s line : String} (h : line ∈ trimmedLines s) :
    line ≠ "" ∧ trimmed line = line := by
  obtain ⟨kept, mem, entry⟩ := List.mem_filterMap.1 h
  obtain ⟨part, -, rfl⟩ := List.mem_map.1 mem
  split at entry
  · cases entry
  · next kept =>
    obtain rfl := Option.some.inj entry
    exact ⟨by simpa using kept, by rw [trimmed, String.toList_ofList, trim_trim]⟩

end PushNotice.Text
