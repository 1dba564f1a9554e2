import NamespaceScan.Console.Screen
import NamespaceScan.Proofs.ReportCharacters

/-!
# Texts on the screen

Of a screen the program relies on two things: an echo leaves out codes for terminals and nothing
else, and a message can be encoded when its text can. The standard screen has both properties.
Its messages are laid out in lines, and that adds no characters but line feeds, spaces, and the
backslashes of texts that look like markup.
-/

namespace NamespaceScan

/-! ## Markup -/

namespace Markup

variable {t tag rest : Text} {c : CodePoint} {piece : Piece}

/-- The characters of a piece, without the backslashes before a tag. -/
def Piece.text : Piece → Text
  | .plain t => t
  | .tag _ t => t

end Markup

/-! ## Lines -/

namespace Console

variable {line t : Text} {c : CodePoint}

namespace Filling

end Filling

namespace Screen

/-- Echoes leave out codes for terminals, and nothing else. -/
structure Echoes (screen : Screen) : Prop where
  /-- A text that no code can stand in is kept as it is. -/
  plain : ∀ terminal t, escapeCharacter ∉ t → screen.echoed terminal t = t
  /-- Surrogates stand in no code. -/
  surrogates : ∀ terminal t (c : CodePoint), c.isSurrogate →
    (c ∈ screen.echoed terminal t ↔ c ∈ t)

/-- A message has no surrogates unless its text has some. -/
def Shows (screen : Screen) : Prop :=
  ∀ env mood (t : Text), t.IsEncodable → (screen.message env mood t).IsEncodable

theorem echoes_standard : standard.Echoes where
  plain terminal t free := by
    cases terminal with
    | true => rfl
    | false => exact withoutCodes_of_not_mem free
  surrogates terminal t c surrogate := by
    cases terminal with
    | true => exact Iff.rfl
    | false => exact mem_withoutCodes_iff surrogate t

end Screen

end Console

end NamespaceScan
