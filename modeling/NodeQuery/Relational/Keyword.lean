/-!
The words that have a meaning of their own in a template, in any letter case.
-/

namespace NodeQuery.Relational.Keyword

/-- The capitals of a character. Only those that are ASCII letters matter, since keywords have no
others; so beside the small letters there are the dotless i, the long and the sharp s and the
ligatures. -/
def capitals (char : Char) : List Char :=
  if char = 'ı' then ['I']
  else if char = 'ſ' then ['S']
  else if char = 'ß' then ['S', 'S']
  else if char = 'ﬀ' then ['F', 'F']
  else if char = 'ﬁ' then ['F', 'I']
  else if char = 'ﬂ' then ['F', 'L']
  else if char = 'ﬃ' then ['F', 'F', 'I']
  else if char = 'ﬄ' then ['F', 'F', 'L']
  else if char = 'ﬅ' || char = 'ﬆ' then ['S', 'T']
  else [char.toUpper]

/-- A name spells a keyword if its capitals are the letters of the keyword. -/
def spells (name keyword : String) : Bool := name.toList.flatMap capitals == keyword.toList

/-- The parts of a date or a time of day. -/
def dateFields : List String :=
  ["YEAR", "MONTH", "WEEK", "DAY", "DATE", "HOUR", "MINUTE", "SECOND", "CENTURY", "DECADE", "DOY",
    "DOW", "EPOCH", "ISODOW", "ISOYEAR", "JULIAN", "MICROSECOND", "MICROSECONDS", "MILLENIUM",
    "MILLENNIUM", "MILLISECOND", "MILLISECONDS", "NANOSECOND", "NANOSECONDS", "QUARTER",
    "TIMEZONE", "TIMEZONE_HOUR", "TIMEZONE_MINUTE"]

/-- The keywords that end a selected value, so that none of them names it without `AS`. -/
def afterValue : List String :=
  ["WITH", "EXPLAIN", "ANALYZE", "SELECT", "WHERE", "GROUP", "SORT", "HAVING", "ORDER", "TOP",
    "LATERAL", "VIEW", "LIMIT", "OFFSET", "FETCH", "UNION", "EXCEPT", "INTERSECT", "CLUSTER",
    "DISTRIBUTE", "FROM", "INTO", "END"]

/-- The keywords that end a table, so that none of them names it without `AS`. -/
def afterTable : List String :=
  ["WITH", "EXPLAIN", "ANALYZE", "SELECT", "WHERE", "GROUP", "SORT", "HAVING", "ORDER", "PIVOT",
    "UNPIVOT", "TOP", "LATERAL", "VIEW", "LIMIT", "OFFSET", "FETCH", "UNION", "EXCEPT",
    "INTERSECT", "ON", "JOIN", "INNER", "CROSS", "FULL", "LEFT", "RIGHT", "NATURAL", "USING",
    "CLUSTER", "DISTRIBUTE", "OUTER", "SET", "QUALIFY", "WINDOW", "END", "FOR", "PARTITION"]

def all : List String :=
  ["ABORT", "ABS", "ABSOLUTE", "ACTION", "ADD", "ADMIN", "AGAINST", "ALL", "ALLOCATE", "ALTER",
    "ALWAYS", "ANALYZE", "AND", "ANTI", "ANY", "APPLY", "ARCHIVE", "ARE", "ARRAY", "ARRAY_AGG",
    "ARRAY_MAX_CARDINALITY", "AS", "ASC", "ASENSITIVE", "ASSERT", "ASYMMETRIC", "AT", "ATOMIC",
    "ATTACH", "AUTHORIZATION", "AUTO", "AUTOINCREMENT", "AUTO_INCREMENT", "AVG", "AVRO",
    "BACKWARD", "BASE64", "BEGIN", "BEGIN_FRAME", "BEGIN_PARTITION", "BETWEEN", "BIGDECIMAL",
    "BIGINT", "BIGNUMERIC", "BINARY", "BLOB", "BOOL", "BOOLEAN", "BOTH", "BROWSE", "BTREE", "BY",
    "BYPASSRLS", "BYTEA", "BYTES", "CACHE", "CALL", "CALLED", "CARDINALITY", "CASCADE",
    "CASCADED", "CASE", "CAST", "CEIL", "CEILING", "CENTURY", "CHAIN", "CHANGE", "CHAR",
    "CHARACTER", "CHARACTERS", "CHARACTER_LENGTH", "CHARSET", "CHAR_LENGTH", "CHECK", "CLOB",
    "CLONE", "CLOSE", "CLUSTER", "COALESCE", "COLLATE", "COLLATION", "COLLECT", "COLUMN",
    "COLUMNS", "COMMENT", "COMMIT", "COMMITTED", "COMPRESSION", "COMPUTE", "CONCURRENTLY",
    "CONDITION", "CONFLICT", "CONNECT", "CONNECTION", "CONSTRAINT", "CONTAINS", "CONVERT", "COPY",
    "COPY_OPTIONS", "CORR", "CORRESPONDING", "COUNT", "COVAR_POP", "COVAR_SAMP", "CREATE",
    "CREATEDB", "CREATEROLE", "CREDENTIALS", "CROSS", "CSV", "CUBE", "CUME_DIST", "CURRENT",
    "CURRENT_CATALOG", "CURRENT_DATE", "CURRENT_DEFAULT_TRANSFORM_GROUP", "CURRENT_PATH",
    "CURRENT_ROLE", "CURRENT_ROW", "CURRENT_SCHEMA", "CURRENT_TIME", "CURRENT_TIMESTAMP",
    "CURRENT_TRANSFORM_GROUP_FOR_TYPE", "CURRENT_USER", "CURSOR", "CYCLE", "DATA", "DATABASE",
    "DATE", "DATETIME", "DAY", "DAYOFWEEK", "DAYOFYEAR", "DEALLOCATE", "DEC", "DECADE", "DECIMAL",
    "DECLARE", "DEFAULT", "DEFERRABLE", "DEFERRED", "DEFINED", "DELAYED", "DELETE", "DELIMITED",
    "DELIMITER", "DENSE_RANK", "DEREF", "DESC", "DESCRIBE", "DETAIL", "DETERMINISTIC",
    "DIRECTORY", "DISCARD", "DISCONNECT", "DISTINCT", "DISTRIBUTE", "DIV", "DO", "DOUBLE", "DOW",
    "DOY", "DROP", "DRY", "DUPLICATE", "DYNAMIC", "EACH", "ELEMENT", "ELEMENTS", "ELSE",
    "ENCODING", "ENCRYPTION", "END", "END_FRAME", "END_PARTITION", "ENFORCED", "ENGINE", "ENUM",
    "EPOCH", "EQUALS", "ERROR", "ESCAPE", "ESCAPED", "EVENT", "EVERY", "EXCEPT", "EXCEPTION",
    "EXCLUDE", "EXCLUSIVE", "EXEC", "EXECUTE", "EXISTS", "EXP", "EXPANSION", "EXPLAIN",
    "EXPLICIT", "EXTENDED", "EXTENSION", "EXTERNAL", "EXTRACT", "FAIL", "FALSE", "FETCH",
    "FIELDS", "FILE", "FILES", "FILE_FORMAT", "FILTER", "FIRST", "FIRST_VALUE", "FLOAT", "FLOAT4",
    "FLOAT64", "FLOAT8", "FLOOR", "FLUSH", "FOLLOWING", "FOR", "FORCE", "FORCE_NOT_NULL",
    "FORCE_NULL", "FORCE_QUOTE", "FOREIGN", "FORMAT", "FORMATTED", "FORWARD", "FRAME_ROW", "FREE",
    "FREEZE", "FROM", "FULL", "FULLTEXT", "FUNCTION", "FUNCTIONS", "FUSION", "GENERATE",
    "GENERATED", "GET", "GLOBAL", "GRANT", "GRANTED", "GRAPHVIZ", "GROUP", "GROUPING", "GROUPS",
    "HASH", "HAVING", "HEADER", "HIGH_PRIORITY", "HISTORY", "HIVEVAR", "HOLD", "HOSTS", "HOUR",
    "IDENTITY", "IF", "IGNORE", "ILIKE", "IMMEDIATE", "IMMUTABLE", "IN", "INCLUDE",
    "INCLUDE_NULL_VALUES", "INCREMENT", "INDEX", "INDICATOR", "INHERIT", "INNER", "INOUT",
    "INPUT", "INPUTFORMAT", "INSENSITIVE", "INSERT", "INT", "INT2", "INT4", "INT64", "INT8",
    "INTEGER", "INTERSECT", "INTERSECTION", "INTERVAL", "INTO", "IS", "ISODOW", "ISOLATION",
    "ISOYEAR", "ITEMS", "JAR", "JOIN", "JSON", "JSONB", "JSONFILE", "JSON_TABLE", "JULIAN", "KEY",
    "KEYS", "KILL", "LAG", "LANGUAGE", "LARGE", "LAST", "LAST_VALUE", "LATERAL", "LEAD",
    "LEADING", "LEFT", "LEVEL", "LIKE", "LIKE_REGEX", "LIMIT", "LINES", "LISTAGG", "LN", "LOAD",
    "LOCAL", "LOCALTIME", "LOCALTIMESTAMP", "LOCATION", "LOCK", "LOCKED", "LOGIN", "LOGS",
    "LOWER", "LOW_PRIORITY", "MACRO", "MANAGEDLOCATION", "MAP", "MATCH", "MATCHED",
    "MATERIALIZED", "MAX", "MAXVALUE", "MEDIUMINT", "MEMBER", "MERGE", "METADATA", "METHOD",
    "MICROSECOND", "MICROSECONDS", "MILLENIUM", "MILLENNIUM", "MILLISECOND", "MILLISECONDS",
    "MIN", "MINUTE", "MINVALUE", "MOD", "MODE", "MODIFIES", "MODIFY", "MODULE", "MONTH", "MSCK",
    "MULTISET", "MUTATION", "NAME", "NANOSECOND", "NANOSECONDS", "NATIONAL", "NATURAL", "NCHAR",
    "NCLOB", "NEW", "NEXT", "NO", "NOBYPASSRLS", "NOCREATEDB", "NOCREATEROLE", "NOINHERIT",
    "NOLOGIN", "NONE", "NOREPLICATION", "NORMALIZE", "NOSCAN", "NOSUPERUSER", "NOT", "NOTHING",
    "NOWAIT", "NTH_VALUE", "NTILE", "NULL", "NULLIF", "NULLS", "NUMERIC", "NVARCHAR", "OBJECT",
    "OCCURRENCES_REGEX", "OCTETS", "OCTET_LENGTH", "OF", "OFFSET", "OLD", "ON", "ONLY", "OPEN",
    "OPERATOR", "OPTION", "OPTIONS", "OR", "ORC", "ORDER", "OUT", "OUTER", "OUTPUTFORMAT", "OVER",
    "OVERFLOW", "OVERLAPS", "OVERLAY", "OVERWRITE", "OWNED", "PARALLEL", "PARAMETER", "PARQUET",
    "PARTITION", "PARTITIONED", "PARTITIONS", "PASSWORD", "PATH", "PERCENT", "PERCENTILE_CONT",
    "PERCENTILE_DISC", "PERCENT_RANK", "PERIOD", "PERSISTENT", "PIVOT", "PLACING", "PLANS",
    "PORTION", "POSITION", "POSITION_REGEX", "POWER", "PRAGMA", "PRECEDES", "PRECEDING",
    "PRECISION", "PREPARE", "PRESERVE", "PRIMARY", "PRIOR", "PRIVILEGES", "PROCEDURE", "PROGRAM",
    "PURGE", "QUALIFY", "QUARTER", "QUERY", "QUOTE", "RANGE", "RANK", "RAW", "RCFILE", "READ",
    "READS", "READ_ONLY", "REAL", "RECURSIVE", "REF", "REFERENCES", "REFERENCING", "REGCLASS",
    "REGEXP", "REGR_AVGX", "REGR_AVGY", "REGR_COUNT", "REGR_INTERCEPT", "REGR_R2", "REGR_SLOPE",
    "REGR_SXX", "REGR_SXY", "REGR_SYY", "RELATIVE", "RELAY", "RELEASE", "RENAME", "REORG",
    "REPAIR", "REPEATABLE", "REPLACE", "REPLICA", "REPLICATION", "RESET", "RESPECT", "RESTRICT",
    "RESTRICTED", "RESULT", "RESULTSET", "RETAIN", "RETURN", "RETURNING", "RETURNS", "REVOKE",
    "RIGHT", "RLIKE", "ROLE", "ROLES", "ROLLBACK", "ROLLUP", "ROOT", "ROW", "ROWID", "ROWS",
    "ROW_NUMBER", "RULE", "RUN", "SAFE", "SAFE_CAST", "SAVEPOINT", "SCHEMA", "SCHEMAS", "SCOPE",
    "SCROLL", "SEARCH", "SECOND", "SECRET", "SECURITY", "SELECT", "SEMI", "SENSITIVE", "SEQUENCE",
    "SEQUENCEFILE", "SEQUENCES", "SERDE", "SERIALIZABLE", "SESSION", "SESSION_USER", "SET",
    "SETS", "SHARE", "SHOW", "SIMILAR", "SKIP", "SLOW", "SMALLINT", "SNAPSHOT", "SOME", "SORT",
    "SPATIAL", "SPECIFIC", "SPECIFICTYPE", "SQL", "SQLEXCEPTION", "SQLSTATE", "SQLWARNING",
    "SQRT", "STABLE", "STAGE", "START", "STATIC", "STATISTICS", "STATUS", "STDDEV_POP",
    "STDDEV_SAMP", "STDIN", "STDOUT", "STORAGE_INTEGRATION", "STORED", "STRICT", "STRING",
    "STRUCT", "SUBMULTISET", "SUBSTRING", "SUBSTRING_REGEX", "SUCCEEDS", "SUM", "SUPER",
    "SUPERUSER", "SWAP", "SYMMETRIC", "SYNC", "SYSTEM", "SYSTEM_TIME", "SYSTEM_USER", "TABLE",
    "TABLES", "TABLESAMPLE", "TBLPROPERTIES", "TEMP", "TEMPORARY", "TERMINATED", "TEXT",
    "TEXTFILE", "THEN", "TIES", "TIME", "TIMESTAMP", "TIMESTAMPTZ", "TIMETZ", "TIMEZONE",
    "TIMEZONE_HOUR", "TIMEZONE_MINUTE", "TINYINT", "TO", "TOP", "TRAILING", "TRANSACTION",
    "TRANSIENT", "TRANSLATE", "TRANSLATE_REGEX", "TRANSLATION", "TREAT", "TRIGGER", "TRIM",
    "TRIM_ARRAY", "TRUE", "TRUNCATE", "TRY_CAST", "TYPE", "UESCAPE", "UNBOUNDED", "UNCACHE",
    "UNCOMMITTED", "UNION", "UNIQUE", "UNKNOWN", "UNLOCK", "UNLOGGED", "UNNEST", "UNPIVOT",
    "UNSIGNED", "UNTIL", "UPDATE", "UPPER", "URL", "USAGE", "USE", "USER", "USER_RESOURCES",
    "USING", "UUID", "VALID", "VALIDATION_MODE", "VALUE", "VALUES", "VALUE_OF",
    "VARBINARY", "VARCHAR", "VARIABLES", "VARYING", "VAR_POP", "VAR_SAMP", "VERBOSE", "VERSION",
    "VERSIONING", "VIEW", "VIRTUAL", "VOLATILE", "WEEK", "WHEN", "WHENEVER", "WHERE",
    "WIDTH_BUCKET", "WINDOW", "WITH", "WITHIN", "WITHOUT", "WITHOUT_ARRAY_WRAPPER", "WORK",
    "WRITE", "XML", "XOR", "YEAR", "ZONE", "ZORDER"]

end NodeQuery.Relational.Keyword
