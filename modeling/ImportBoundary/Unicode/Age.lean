import ImportBoundary.Unicode.CharSet

/-!
# Ages of characters

The age of a character is the version of Unicode that introduced it. Versions only add characters, so
the characters of a version are those of its age and of all ages before it. The data are those of
Unicode 15.
-/

namespace ImportBoundary.Unicode

/-- The versions in their order: their names in lower case and without separators, and the letter that
stands for them in the table. -/
def versions : List (List String × String) := [
  (["1.1", "v11"], "A"),
  (["2.0", "v20"], "B"),
  (["2.1", "v21"], "C"),
  (["3.0", "v30"], "D"),
  (["3.1", "v31"], "E"),
  (["3.2", "v32"], "F"),
  (["4.0", "v40"], "G"),
  (["4.1", "v41"], "H"),
  (["5.0", "v50"], "I"),
  (["5.1", "v51"], "J"),
  (["5.2", "v52"], "K"),
  (["6.0", "v60"], "L"),
  (["6.1", "v61"], "M"),
  (["6.2", "v62"], "N"),
  (["6.3", "v63"], "O"),
  (["7.0", "v70"], "P"),
  (["8.0", "v80"], "Q"),
  (["9.0", "v90"], "R"),
  (["10.0", "v100"], "S"),
  (["11.0", "v110"], "T"),
  (["12.0", "v120"], "U"),
  (["12.1", "v121"], "V"),
  (["13.0", "v130"], "W"),
  (["14.0", "v140"], "X"),
  (["15.0", "v150"], "Y")]

/-- The ages of all code points in order, as run lengths. The letter `Z` stands for code points that
are not assigned. -/
def ageRuns : String :=
  "1f6A 4D 1eA 8D 1F 1G 12D 3G bH eI 59A 5D 2G 2fA 1D aA 5D 11G 46A 9D 1F 8G 5H 3G 2A 1D dF 4J 2A
   2J 2Z 1A 3I 1A 1P 4Z 7A 1Z 1A 1Z 14A 1Z 2cA 1J 7A 1D 2F 1A 1D 1A 1D 1A 1D 1A 1D 12A 2E 1F 5G 4H
   1D cA 1D 42A 1D cA 1D 29A 1J 2D 2F 4D 35A 2F 2A 2F 2A 2F 1I 1cA 2D 8A 2H 2A 6I 10F 4I 10J 2K 2L
   8P 1Z 26A 2Z 7A 1T 27A 1T 1A 1D 2Z 2P 1M 1Z 11B 1H dB aA 1I 9A 1B 3H 8Z 1bA 4Z 1T 5A bZ 4G 1M 1P
   5J 1H 1A 9G 5J 1A 1O 1X 1H 1A 1L 1aA 5J 13A 3D 3G 6H 1L eA 2F 48A 2D 5A 1D fA 1D 1eA 2G aA 5D 1G
   eD 1Z 1eD 3G 1bD 2Z 3G 1eH 12J 31D 1F eZ 3bI 2Z 3T 2eK 2Z fK 1Z 1cL 2Z 1L 1Z bS 5Z 1fX 1Z 2X 6Z
   8X 1M 1P bM 6P 2Q 1X 8R aW bX 1T fR 1Q 1bM 1P 1K 3A 1G 35A 2L 12A 1K 1L 5A 1K 2L 19A 2J 5L 1P 2K
   2I 1H 2I 1P 3A 1Z 8A 2Z 2A 2Z 16A 1Z 7A 1Z 1A 3Z 4A 2Z 1A 1G 7A 2Z 2A 2Z 3A 1H 8Z 1A 4Z 2A 1Z 5A
   2Z 15A 1K 2S 1T 2Z 1G 1A 1G 1Z 6A 4Z 2A 2Z 16A 1Z 7A 1Z 2A 1Z 2A 1Z 2A 2Z 1A 1Z 5A 4Z 2A 2Z 3A
   3Z 1J 7Z 4A 1Z 1A 7Z fA 1J 1T aZ 3A 1Z 7A 1G 1A 1Z 3A 1Z 16A 1Z 7A 1Z 2A 1Z 5A 2Z aA 1Z 3A 1Z 3A
   2Z 1A fZ 1A 3G 2Z aA 1M 1G 7Z 1Q 6S 1Z 3A 1Z 8A 2Z 2A 2Z 16A 1Z 7A 1Z 2A 1Z 1G 4A 2Z 8A 1J 2Z 2A
   2Z 3A 7Z 1W 2A 4Z 2A 1Z 3A 2J 2Z bA 1G 6L aZ 2A 1Z 6A 3Z 3A 1Z 4A 3Z 2A 1Z 1A 1Z 2A 3Z 2A 3Z 3A
   3Z 8A 1H 3A 4Z 5A 3Z 3A 1Z 4A 2Z 1J 6Z 1A eZ 1H cA 8G 5Z 1P 3A 1T 8A 1Z 3A 1Z 17A 1Z aA 1P 5A 2Z
   1X 1J 7A 1Z 3A 1Z 4A 7Z 2A 1Z 2J 1Q 2Z 1X 2Z 2A 2J 2Z aA 7Z 1U 8J 1R 1P 2A 1T 8A 1Z 3A 1Z 17A 1Z
   aA 1Z 5A 2Z 2G 7A 1Z 3A 1Z 4A 7Z 2A 6Z 1X 1A 1Z 2A 2I 2Z aA 1Z 2I 1Y cZ 1S 1P 2A 1W 8A 1Z 3A 1Z
   17A 1L 10A 1L 2S 1J 6A 1J 1Z 3A 1Z 4A 1L 1R 4Z 3R 1A 7R 1Q 2A 2J 2Z aA 6J 3R 7J 1Z 1W 2D 1Z 12D
   3Z 18D 1Z 9D 1Z 1D 2Z 7D 3Z 1D 4Z 6D 1Z 1D 1Z 8D 6Z aP 2Z 3D cZ 3aA 4Z 1dA 25Z 2A 1Z 1A 1Z 1U 2A
   1U 1A 1Z 1U 1A 6U 4A 1U 7A 1U 3A 1Z 1A 1Z 1A 2U 2A 1U dA 1U 3A 2Z 5A 1Z 1A 1Z 6A 1Y 1Z aA 2Z 2A
   2M 20Z 48B 1Z 21B 1D 2J 4Z 1bB 4L 6B 1D 1B 1Z 15B 3D 7B 1D 1B 3D 1Z fD 1Z 1J 1D 2H 3J 4K 2L 25Z
   22D 1J 5D 1J 2D 1J 7D 3J 4D 6J 1aD 40J 4K 2J 26A 1Z 1M 5Z 1M 2Z 27A 2F 2H 1A 1H 3M 5aA 5K 44A 5K
   52A 6K 7D 1H 3fD 1H 1D 1Z 4D 2Z 7D 1Z 1D 1Z 4D 2Z 27D 1H 1D 1Z 4D 2Z 1fD 1H 1D 1Z 4D 2Z 7D 1Z 1D
   1Z 4D 2Z 7D 1H 7D 1Z 17D 1H 1fD 1H 1D 1Z 4D 2Z 7D 1H 27D 1H 13D 2Z 2L 2H 1cD 3Z 1aH 6Z 55D 1Q 2Z
   6Q 2Z 1K 276D 9K 1dD 3Z 51D 8P 7Z dF 1X 7F 1X 9Z 1X 17F 9Z 14F cZ dF 1Z 3F 1Z 2F cZ 5dD 1G 2Z aD
   6Z aG 6Z fD 1X aD 6Z 58D 1T 7Z 2aD 1J 5Z 46K aZ 1dG 2P 1Z cG 4Z cG 4Z 1G 3Z 2aG 2Z 5G bZ 2aH 2K
   4Z 1aH 6Z aH 1K 3Z 2H 20G 1cH 2Z 2H 3fK 1Z 1dK 2Z bK 6Z aK 6Z eK 2Z fP 2W eX 31Z 4cI 1X 3Z 2dI
   2X 1Z 2bJ 3M cJ 6M 34L 8Z 4L 38J 3Z fJ 3Z 33J 9R 7Z 2bT 2Z 3T 8M 8Z 23K 4M 1S 2P 1U 5Z 6cG 58H
   7I 1cJ fP 4S 1X 1R 1L 1K 2I 9bA 1B 4J 5aA 6J 16A 2Z 6A 2Z 26A 2Z 6A 2Z 8A 1Z 1A 1Z 1A 1Z 1A 1Z
   1fA 2Z 35A 1Z fA 1Z eA 2Z 6A 1Z 13A 2Z 3A 1Z 9A 1Z 2fA 1D 17A 1F 6D 5F 2G 2H 1F 7H 5F 1J 1Z 4O
   7A 1F 2Z 1bA 1Z 5H 8L 3Z bA 1B 1C 3D 2F 4H 3K 1L 1N 3P 1Q 1S 1X fZ 12A 2D 7F 1H 4I 1J fZ 39A 2D
   1G 1H fF 1H 2I 1J 3K 30A 1D 1I 4J 1K 2Q 4Z 5bA 9D cF f2A eF 1A 1D 79A 1D 1F 1eD 34F 2G bH cI 1K
   bL 7P 4R 1S 25A 2D 19Z bA 15Z 8bA 14F 1G 96A aF 50A 8D 8F 14A 2G 2F 1H 1D 56A 2D cF 2H aF 8G bH
   1J 2K 2G 10H 1I aJ 3K 4J aK 1L 13K 1L 1K 4L 18K 1P 4A 1L 4A 2L 1cA 1L 23A 1L 1A 1L 4A 3L 1A 1K
   7A 2L 7A eF 1fA 3L 18A 1L eA 1L 7H 4I 1M 1J 1M 2L 1cF 4J 10F 100D 200F eG 6H 7I 5J 4I 29J 3P 5J
   5K 1aP 2Z 20P 1Z 1W 22P 3T cP 1U 8P 1S 19T 4Q fT 1U 2fH 1X 2fH 1X dI 3J 1K 3J 4I 6J 2K 6bH 7K 2M
   5Z 2dH 1Z 1M 5Z 1M 2Z 36H 2M 7Z 1H 1L eZ 1L 17H 9Z 7H 1Z 7H 1Z 7H 1Z 7H 1Z 7H 1Z 7H 1Z 7H 1Z 7H
   1Z 20J 18H 4J 2H 13J 1K aM 7P 2R 5S 5T 1U 3W bX 22Z 1aD 1Z 59D cZ d6D 1aZ cD 4Z 38A 3D 3F 1D 1A
   1Z 54A 2F 2Z 6A 2F 5eA 1F 5Z 28A 1J 1S 1T 1Z 5eA 1Z 10A 18D 3L 5W 10H 14J cZ 10F 1dA 2G 1Z 24A
   cK 1G fF 1cA 2G 1H 32A fF cA 4G 2fA 1V 77A 4G 63A 2G 1fA 1G 19b6D aW 40G 51a6A 16H 8J 8K 1M 9Q
   15S 5T dW 3X 48dD 3Z 12D 2F 10D 1F cD 1F 3D 1F 1D 9Z 30K 12cJ 14Z 20J 2L 12J 8M 1cJ 6P 1Q 1M 58K
   8Z 17H 4I 5J 2I 6bJ 2L 1Q 2L 2M cP aL 1M 3P 1R 1T 2P 6Q 2T 6U 2X 5U 4W 5Z 2X 1Z 1X 1Z 5X 18Z 3X
   2W 1P 2M 1L 5J 2cH 1W 3Z aK 6Z 38I 8Z 45J 1R 8Z cJ 6Z 1cK 2Q 2T 54J bZ 1J 1dK 3Z 4eK 1Z bK 4Z 2K
   1fP 1Z 37J 9Z eJ 2Z aJ 2Z 4J 1cK 4P 43K 18Z 5K 17M aZ 6L 2Z 6L 2Z 6L 9Z 7L 1Z 7L 1Z 30P 4Q 2P 2U
   4W 4Z 50Q 2eK 2Z aK 6Z 2ba4B cZ 17K 4Z 31K 804Z 1a2eA 2M 3bF 3K 2Z 6aH 26Z 7A cZ 5A 5Z 1D 19A 1Z
   5A 1Z 1A 1Z 2A 1Z 2A 1Z 6cA 10L 1X 10Z 16dA 10X 40A 2Z 36A 7Z 1X 20E cA 1F 1G 2X 10F aH 6Z 4A 3J
   7P 2Q 15A 2F 2G aA 1Z 13A 1Z 4A 4Z 3A 1F 1A 1Z 87A 2Z 1A 1Z 5eA 2F 5eA 3Z 6A 2Z 6A 2Z 6A 2Z 3A
   3Z 7A 1Z 7A aZ 3D 1C 3A cG 1Z 1aG 1Z 13G 1Z 2G 1Z fG 2Z eG 22Z 7bG 5Z 3G 4Z 2dG 3Z 9G 4bH 2P 2R
   1Z cJ 1W 3Z 1P 2fZ 2eJ 82Z 1dJ 3Z 31J fZ 1cP 4Z 1fE 1P 4E 9Z 3S 1bE 5Z 2bP 5Z 1eG 1Z 1G 24H 4Z
   eH 2aZ 26E 2G 26E 50G 2Z aG 6Z 24R 4Z 24R 4Z 28P 8Z 34P bZ 1P bX 1Z fX 1Z 7X 1Z 2X 1Z bX 1Z fX
   1Z 7X 1Z 2X 43Z 137P 9Z 16P aZ 8P 18Z 6X 1Z 2aX 1Z 9X 45Z 6G 2Z 1G 1Z 2cG 1Z 2G 3Z 1G 2Z 1G 16K
   1Z 9K 3fP 8Z 9P 30Z 13Q 1Z 2Q 5Z 5Q 1aI 2K 3Z 1I 1aJ 5Z 1J 40Z 38M 4Z 2Q 2M 10Q 2Z 2eQ 4H 1Z 2H
   5Z 8H 1Z 3H 1Z 1bH 2T 2Z 3H 4Z 9H 1T 7Z 9H 7Z 20K 20P 20Z 27P 4Z cP 9Z 36K 3Z 1dK 2Z 1bK 5Z 8K
   12P 7Z 4P cZ 7P 50Z 49K 37Z 33Q dZ 33Q 7Z 6Q 28T 8Z aT 126Z 1fK 1Z 2aW 1Z 3W 2Z 2W 4bZ 3Y 28T 8Z
   2aT 16Z 1aX 26Z 1cW 14Z 17U 9Z 4eL 4Z 1eL 6X 9Z 1P 42K 1X aZ 1T 2Z 19M 7Z aM 6Z 35M 1Z eM 3T 1W
   8Z 27P 9Z 49M 4Q 1P 2W aM 1P 5Q 1Z 14P bZ 12P 1Z 2bP 1R 3Y 3eZ 7Q 1Z 1Q 1Z 4Q 1Z fQ 1Z bQ 6Z 3bP
   5Z aP 6Z 1Q 3P 1Z 8P 2Z 2P 2Z 16P 1Z 7P 1Z 2P 1Z 5P 1Z 1T 9P 2Z 2P 2Z 3P 2Z 1Q 6Z 1P 5Z 7P 2Z 7P
   3Z 5P 8bZ 5aR 1W 1R 1Z 1R 1T 1U 2W 1eZ 48P 8Z aP a6Z 36P 2Z 12P 14Q 22Z 45P bZ aP 6Z dR 13Z 38M
   1U 1X 6Z aM 36Z 1aQ 1T 2Z fQ 4Z 10Q 7X b9Z 3cT 64Z 53P cZ 1P 7W 2Z 1W 2Z 8W 1Z 2W 1Z 1eW 1Z 2W
   2Z cW 9Z aW 46Z 8U 2Z 2eU 2Z bU 1bZ 48S 8Z 34S 2U 17S 1T 5S dZ 10X 39P 7Z aY f6Z 9R 1Z 2dR 1Z eR
   aZ 1dR 3Z 20R 2Z 16R 1Z eR 49Z 7S 1Z 2S 1Z 2cS 3Z 1S 1Z 2S 1Z 9S 8Z aS 6Z 6T 1Z 2T 1Z 25T 1Z 2T
   1Z 6T 7Z aT 136Z 19T 7Z 11Y 1Z 29Y 3Z 1cY 56Z 1W fZ 32U dZ 1U 36fI 2aP 1Q 66Z 63I cP 1Z 4I 1P bZ
   c4Q a4cZ 63X dZ 42fK 1Y 9U 1dY faaZ 247Q 21b9Z 239L 7Z 1fP 1Z aP 4Z 2P 4fX 1Z aX 6Z 1eP 2Z 6P aZ
   46P aZ aP 1Z 7P 1Z 15P 5Z 13P 2b0Z 5bT 65Z 45M 6U 4Z 1U 2fM 9U 7Z 11M 40Z 1R 1S 2U 1W bZ 2W eZ
   17edR 5T 6U 8Z 2f3R 1e3W 2aZ 9W 22e7Z 4X 1Z 7X 1Z 2X 1Z 2L 11dS 4X fZ 1Y 1dZ 3U 2Z 1Y eZ 4U 8Z
   18cS 904Z 6bP 5Z dP 3Z 9P 7Z aP 2Z 8P 125cZ 2eX 2Z 17X 9Z 74X 3cZ f6E aZ 27E 2Z 1J b4E bQ 2X 15Z
   46H 7aZ 14Y cZ 14T cZ 57G 9Z 12I 7T 87Z 55E 1Z 47E 1Z 2E 2Z 1E 2Z 2E 2Z 4E 1Z cE 1Z 1E 1Z 4E 1G
   2E 1Z 41E 1Z 4E 2Z 8E 1Z 7E 1Z 1cE 1Z 4E 1Z 5E 1Z 1E 3Z 7E 1Z 152E 2H 2Z 122E 2I 2Z 32E 28cQ fZ
   5Q 1Z fQ 450Z 1fX 6Z 6Y d5Z 7R 1Z 11R 2Z 7R 1Z 2R 1Z 5R 5Z 3eY 21Z 1Y 70Z 2dU 3Z eU 2Z aU 4Z 2U
   140Z 1fX 11Z 3aU 5Z 1U 1d0Z 2aY 2e6Z 7X 1Z 4X 1Z 2X 1Z fX 1Z c5P 2Z 10P 29Z 4bR 1U 4Z aR 4Z 2R
   311Z 44T 4cZ 3dU c2Z 4M 1Z 1bM 1Z 2M 1Z 1M 2Z 1M 1Z aM 1Z 4M 1Z 1M 1Z 1M 6Z 1M 4Z 1M 1Z 1M 1Z 1M
   1Z 3M 1Z 2M 1Z 1M 2Z 1M 1Z 1M 1Z 1M 1Z 1M 1Z 1M 1Z 2M 1Z 1M 2Z 4M 1Z 7M 1Z 4M 1Z 4M 1Z 1M 1Z aM
   1Z 11M 5Z 3M 1Z 5M 1Z 11M 34Z 2M 10eZ 2cJ 4Z 64J cZ fL 2Z eL 1P 1Z fL 1Z fL 16P aZ bK 2P 3W 1fK
   1T 1L 1K bL 1K 1L 1K 2L 1K 3L 1K 3L 5K 8L 1K 7L 1K aL 2M 1U 3W 9L 1K 1L 2K 2L 1K aL 4K 2L 1K aL
   12R 1W 38Z 1aL 1K 2L dZ 22K 9L 1R 4Z 9K 7Z 2L eZ 6S 9aZ 21L cP 3Q 6L 1P 46L 1P 2Q 14L cP 25L 1P
   5L 4P 5Q cP 11L 7P 8Q 3fL 1P 1L 1P b6L 1P 4L 2P 1Q 3eL 2P 4M 7P 5Q 18L 12P 1R 29P 1R 56P 5L 1M
   10L 1M 3L 1M 1L 1M 1L 1M 1L 1M 3L 1M 6L 2M 4L 1M 1L 2M 4L 1M cL 2P 2Q bL 30P 46L aP 1Q 2R 2S 1U
   2W 4Z 1Y 3X dP 3Z 4P 3R 2S 1T 1U 2W 3Z 74L 3Y 4Z 5Y 55P 4T 1Y 6Z cU 4Z 1X fZ cP 4Z 38P 8Z aP 6Z
   28P 8Z 1eP 2Z 2W 4eZ cS 1W 3U 9Q 6R 1S 8R 8S 1R 2S cR 1U cR 1S 3T fR dS 5T 1U 1W 4T 2W 1X 1T 1U
   4T 5Q dR 6S bT 2W 6U 3W 2U aT 6U 1Q 2T 8U 1W 1X 3U 17S 19T 54U cZ eT 2Z 4U 1W 3Y 3U 2X 3Z 3U 4W
   2Y 7Z 6U 13W 4X 3Y 7W 4X 3Y 1Z 1Y 3W 3X 8Z 2Y 7W 3X 2Y 4Z 8X 1Y 7Z 7X 2Y 7Z 93W 1Z 37W 25Z aW
   404Z 2B a6d7E 7W 2X 20Z 1035K 4X 1Y 6Z deL 2Z 1682Q eZ 1d31S c1fZ 21eE 5e0Z 2B 134bW 5Z 1060Y
   dc4eZ 2B fffeZ 2B fffeZ 2B fffeZ 2B fffeZ 2B fffeZ 2B fffeZ 2B fffeZ 2B fffeZ 2B fffeZ 2B fffeZ
   2B 1Z 1E 1eZ 60E 80Z f0G fe0eZ 20002B"

def lettersUpTo? (name : String) : List (List String × String) → Option (List String)
  | [] => none
  | (names, letter) :: rest =>
    if names.contains name then some [letter] else (lettersUpTo? name rest).map (letter :: ·)

def ofVersion? (name : String) : Option CharSet :=
  (lettersUpTo? name versions).map fun letters => CharSet.ofLabelledRuns letters ageRuns

end ImportBoundary.Unicode
