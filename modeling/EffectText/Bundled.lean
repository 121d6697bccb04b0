/-! # Bundled files

    The ruleset and the content that the program is delivered with. A run reads them
    from their directory, like all other files; their texts stand here to try runs in
    surroundings that hold them (`Surroundings.ofTree`).
-/

namespace EffectText.Bundled

/-- The path of the directory of the bundled files, outside the working directory. -/
def directory : String := "/bundled-data"

/-- The bundled ruleset, in TOML. -/
def ruleset : String := r#"# Eras, techs and policies referenced by conditionals in content.ron.
name = "Classic"
techs = ["Agriculture", "Bronze Working", "Currency", "Writing", "Philosophy", "Chivalry", "Navigation"]
policies = ["Tradition", "Liberty", "Honor", "Piety"]

[[eras]]
name = "Ancient era"
era_number = 0

[[eras]]
name = "Classical era"
era_number = 1

[[eras]]
name = "Medieval era"
era_number = 2

[[eras]]
name = "Renaissance era"
era_number = 3

[[eras]]
name = "Industrial era"
era_number = 4
"#

/-- The bundled content, in RON. -/
def content : String := r#"(
    objects: [
        (
            kind: "Building",
            name: "Monument",
            uniques: [
                "[+2 Culture] [in this city]",
                "[+1 Culture] [in this city] <with a garrison>",
            ],
        ),
        (
            kind: "Building",
            name: "Market",
            uniques: [
                "[+25]% [Gold] [in this city]",
                "[+2 Gold] [in this city] <after discovering [Currency]>",
            ],
        ),
        (
            kind: "Building",
            name: "Stonehenge",
            uniques: [
                "[+5 Culture] [in this city]",
                "Will not be displayed in Civilopedia",
            ],
        ),
        (
            kind: "Policy",
            name: "Tradition",
            uniques: [
                "[+3 Culture] [in capital]",
                "[+1 Food] [in all cities] <while the empire is happy>",
                "[+10]% Golden Age length",
            ],
        ),
        (
            kind: "Policy",
            name: "Honor",
            uniques: [
                "[+33]% Strength <vs [Barbarian] units>",
                "[+15]% Strength <when fighting units from a Civilization with more Cities than you>",
                "[5] units cost no maintenance <starting from the [Medieval era]>",
            ],
        ),
        (
            kind: "Belief",
            name: "God of the Sea",
            uniques: [
                "[+1 Production] from [Fishing Boats] tiles [in all cities] <in cities where this religion has at least [1] followers>",
            ],
        ),
        (
            kind: "Promotion",
            name: "Woodsman",
            uniques: [
                "[+33]% Strength <in [Forest] tiles>",
                "[+1] Movement <when between [0] and [10] Happiness>",
            ],
        ),
        (
            kind: "Unit",
            name: "Knight",
            uniques: [
                "[-33]% Strength <vs cities>",
                "[+1] Sight <on a foreign continent> <before the [Renaissance era]>",
            ],
        ),
        (
            kind: "Ruins",
            name: "Ancient Ruins",
            uniques: [
                "Free Technology",
                "Gain [50] [Gold]",
                "[2] free [Warrior] units appear",
            ],
        ),
        (
            kind: "Terrain",
            name: "Mountain",
            uniques: [
                "[+1 Production] <with [2] to [6] neighboring [Hill] tiles>",
                "Grants a view of the sea",
            ],
        ),
    ],
)
"#

/-- **Bundled files**, by their paths. -/
def files : List (String × String) :=
  [(directory ++ "/ruleset.toml", ruleset), (directory ++ "/content.ron", content)]

end EffectText.Bundled
