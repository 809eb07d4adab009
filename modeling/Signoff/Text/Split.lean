namespace Signoff.Text

def splitAt (isSeparator : Char → Bool) : List Char → List (List Char)
  | [] => [[]]
  | char :: rest =>
    if isSeparator char then [] :: splitAt isSeparator rest
    else
      match splitAt isSeparator rest with
      | part :: more => (char :: part) :: more
      | [] => [[char]]

theorem splitAt_ne_nil (isSeparator : Char → Bool) (chars : List Char) :
    splitAt isSeparator chars ≠ [] := by
  cases chars with
  | nil => simp [splitAt]
  | cons char rest =>
    rw [splitAt]
    split
    · simp
    · split <;> simp

end Signoff.Text
