namespace ScanCheck.Text

/-- The texts between the occurrences of a character. A text without any is one field. -/
def fields (mark : Char) : List Char → List (List Char)
  | [] => [[]]
  | char :: rest =>
    if char = mark then [] :: fields mark rest
    else
      match fields mark rest with
      | [] => [[char]]
      | field :: others => (char :: field) :: others

end ScanCheck.Text
