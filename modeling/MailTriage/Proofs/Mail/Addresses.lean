import MailTriage.Mail.Address
import MailTriage.Proofs.LowerCase
import MailTriage.Proofs.Trim

namespace MailTriage.Mail

/-- What can stand between two commas, without the white space around it. -/
structure IsEntry (entry : String) : Prop where
  ne_empty : entry ≠ ""
  not_comma : ',' ∉ entry.toList
  not_blank_first : ∀ c ∈ entry.toList.head?, ¬ Text.isBlank c
  not_blank_last : ∀ c ∈ entry.toList.getLast?, ¬ Text.isBlank c

/-- Each piece of a header can be written in small letters by itself. -/
theorem addresses_eq (header : String) : addresses header =
    (Text.trimmedPieces ((Text.splitAtChar ',' header.toList).map Text.lower)).map String.ofList := by
  rw [addresses, Text.splitAtChar_lower Text.endsWord_comma (by decide) (by decide)]

theorem addresses_append (a b : String) :
    addresses (a ++ "," ++ b) = addresses a ++ addresses b := by
  have hsplit : Text.splitAtChar ',' (a ++ "," ++ b).toList =
      Text.splitAtChar ',' a.toList ++ Text.splitAtChar ',' b.toList := by
    rw [String.toList_append, String.toList_append, List.append_assoc]
    exact Text.splitAtChar_append ',' a.toList b.toList
  rw [addresses_eq, addresses_eq, addresses_eq, hsplit, List.map_append, Text.trimmedPieces_append,
    List.map_append]

theorem addresses_of_not_mem {header : String} (h : ',' ∉ header.toList) : addresses header =
    if trimmed (lowerCase header) = "" then [] else [trimmed (lowerCase header)] := by
  have htrimmed : trimmed (lowerCase header) = String.ofList (Text.trim (Text.lower header.toList)) := by
    rw [trimmed, lowerCase, String.toList_ofList]
  rw [addresses_eq, Text.splitAtChar_of_not_mem h, htrimmed]
  by_cases hnil : Text.trim (Text.lower header.toList) = []
  · simp [Text.trimmedPieces, hnil]
  · simp [Text.trimmedPieces, hnil]

theorem isEntry_of_mem_addresses {header entry : String} (h : entry ∈ addresses header) :
    IsEntry entry := by
  obtain ⟨s, hs, rfl⟩ := List.mem_map.1 h
  obtain ⟨hne, piece, hpiece, rfl⟩ := Text.mem_trimmedPieces.1 hs
  have hcomma : ',' ∉ piece := Text.not_mem_of_mem_splitAtChar hpiece
  obtain ⟨hfirst, hlast⟩ := Text.trim_eq_self_iff.1 (Text.trim_trim piece)
  constructor
  case ne_empty => simpa using hne
  all_goals rw [String.toList_ofList]
  case not_comma => exact fun hmem => hcomma ((Text.trim_isInfix piece).subset hmem)
  case not_blank_first => exact hfirst
  case not_blank_last => exact hlast

/-- Two headers with a comma between them have the entries of the first and then those of the second. A
header without a comma is one entry in small letters, unless it is blank. -/
theorem addresses_joined (a b : String) :
    addresses (a ++ "," ++ b) = addresses a ++ addresses b ∧
      (',' ∉ a.toList → addresses a =
        if trimmed (lowerCase a) = "" then [] else [trimmed (lowerCase a)]) ∧
      ∀ entry ∈ addresses a, IsEntry entry :=
  ⟨addresses_append a b, addresses_of_not_mem, fun _ => isEntry_of_mem_addresses⟩

/-- The full stops do not end a word, so without the comma the first sigma would stand inside one. -/
theorem addresses_joined_of_sigmas :
    addresses ("ΟΔΟΣ." ++ "," ++ ".ΣİΣ") = ["οδος.", ".σi\u0307ς"] ∧
      addresses ("ΟΔΟΣ." ++ ".ΣİΣ") = ["οδοσ..σi\u0307ς"] ∧ IsEntry "οδος." := by
  obtain ⟨happend, hone, hentry⟩ := addresses_joined "ΟΔΟΣ." ".ΣİΣ"
  have hfirst : addresses "ΟΔΟΣ." = ["οδος."] := by
    rw [hone (by decide)]
    decide +kernel
  have hsecond : addresses ".ΣİΣ" = [".σi\u0307ς"] := by decide +kernel
  refine ⟨?_, by decide +kernel, hentry _ (by rw [hfirst]; exact List.mem_singleton_self _)⟩
  rw [happend, hfirst, hsecond]
  rfl

end MailTriage.Mail
