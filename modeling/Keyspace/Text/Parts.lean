/-!
# Parts of texts

A text is cut at every occurrence of a separator, so that there is one part
more than there are separators.
-/

namespace Keyspace
namespace Parts

/-- The parts between separators. -/
def split (separator : Char) : List Char -> List (List Char)
  | [] => [[]]
  | character :: rest =>
      if character = separator then [] :: split separator rest
      else
        match split separator rest with
        | [] => [[character]]
        | first :: others => (character :: first) :: others

end Parts
end Keyspace
