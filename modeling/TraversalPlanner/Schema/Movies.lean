import TraversalPlanner.Schema.Graph

/-
  This file defines an example schema: productions with their
  cast, genres and directors.

  Key definitions include:
    * `SchemaGraph.movies`
-/

namespace TraversalPlanner

namespace SchemaGraph

/- A role of the example. -/
def movieRole (label : String) : SchemaConcept :=
  .ofKind label .roleType

/- A relation of the example with the roles that it relates. -/
def movieRelation
    (label : String)
    (roles : List String) : SchemaConcept :=
  { SchemaConcept.ofKind label .relationType with relates := roles }

/- A resource of the example. -/
def movieResource
    (label : String)
    (type : DataType) : SchemaConcept :=
  { SchemaConcept.ofKind label .resourceType with dataType := some type }

/- An entity of the example with its roles and resources. -/
def movieEntity
    (label : String)
    (roles : List String)
    (resources : List String) : SchemaConcept :=
  { SchemaConcept.ofKind label .entityType with
    plays := roles
    has := resources }

/- The concepts of the example, in order. -/
def movieConcepts : List SchemaConcept :=
  [movieRole "production-with-cast",
   movieRole "actor",
   movieRole "character-being-played",
   movieRole "production-with-genre",
   movieRole "genre-of-production",
   movieRole "director",
   movieRole "production-being-directed",
   movieRelation "has-cast"
     ["production-with-cast", "actor", "character-being-played"],
   movieRelation "has-genre"
     ["production-with-genre", "genre-of-production"],
   movieRelation "directed-by"
     ["production-being-directed", "director"],
   movieRelation "character-in-production" [],
   movieResource "title" .string,
   movieResource "name" .string,
   movieResource "tmdb-vote-count" .long,
   movieEntity "production"
     ["production-with-cast", "production-with-genre",
       "production-being-directed"]
     ["title", "tmdb-vote-count"],
   { SchemaConcept.ofKind "movie" .entityType with sup := some "production" },
   movieEntity "person" ["actor", "director"] ["name"],
   movieEntity "genre" ["genre-of-production"] ["name"],
   movieEntity "character" ["character-being-played"] ["name"]]

/- The example schema. -/
def movies : SchemaGraph :=
  ofConcepts movieConcepts (by decide)

end SchemaGraph

end TraversalPlanner
