import LifeStory.Content.Table
import LifeStory.Config.Data
import LifeStory.Error
import LifeStory.Toml.Reader

/-!
# Documents of a game

A document is read as tables first, then the tables are checked. A configuration that cannot be
played is refused when it is read.
-/

namespace LifeStory

/-- The catalog that a document writes. -/
def Catalog.ofDocument (s : String) : Except GameError Catalog :=
  match (Toml.read? s).bind ContentTables.ofDatum? with
  | none => .error .documentText
  | some tables => tables.compile.mapError .content

/-- The configuration, unless it cannot be played. -/
def Config.checked (c : Config) : Except GameError Config :=
  match c.fault? with
  | some fault => .error (.config fault)
  | none => .ok c

/-- The configuration that a document writes. -/
def Config.ofDocument (s : String) : Except GameError Config :=
  match (Toml.read? s).bind (Config.ofDatum? true) with
  | none => .error .documentText
  | some config => config.checked

end LifeStory
