/-!
The modules that every server carries: its settings, its errors, its log and the ways to keep
records. They are the same for every design.
-/

namespace Blueprint.Server.Runtime

/-- The settings of the server. -/
def settingsModule : List String := [
  "# app/core/config.py",
  "from typing import List",
  "",
  "from pydantic_settings import BaseSettings, SettingsConfigDict",
  "",
  "",
  "class Settings(BaseSettings):",
  "    APP_NAME: str = \"DDSL Server\"",
  "    API_PREFIX: str = \"/api\"",
  "    DOCS_URL: str = \"/docs\"",
  "    OPENAPI_URL: str = \"/openapi.json\"",
  "    LOG_LEVEL: str = \"INFO\"",
  "",
  "    # CORS",
  "    BACKEND_CORS_RAW_ORIGINS: str = \"http://localhost:4200\"",
  "",
  "    SERVER_HOST: str = \"0.0.0.0\"",
  "    SERVER_PORT: int = 3000",
  "",
  "    # Overrides the url of a data source: DATA_SOURCE_URLS='\x7b\"Main\": \"sqlite:///dev.db\"\x7d'",
  "    DATA_SOURCE_URLS: dict[str, str] = \x7b\x7d",
  "",
  "    model_config = SettingsConfigDict(env_file=\".env\", extra=\"ignore\")",
  "",
  "    def cors_origins(self) -> List[str]:",
  "        return [o.strip() for o in self.BACKEND_CORS_RAW_ORIGINS.split(\",\") if o.strip()]",
  "",
  "",
  "settings = Settings()",
  ""]

/-- The errors of the server and their answers. -/
def errorsModule : List String := [
  "# app/core/errors.py",
  "import logging",
  "",
  "from fastapi import FastAPI, Request",
  "from fastapi.responses import JSONResponse",
  "from pydantic import ValidationError",
  "",
  "logger = logging.getLogger(\"ddsl.errors\")",
  "",
  "",
  "class NotFoundError(Exception):",
  "    def __init__(self, entity_name: str, id=None):",
  "        self.entity_name = entity_name",
  "        self.id = id",
  "        detail = f\"\x7bentity_name\x7d \x7bid\x7d not found\" if id is not None else f\"\x7bentity_name\x7d not found\"",
  "        super().__init__(detail)",
  "",
  "",
  "class BehaviorError(Exception):",
  "    \"\"\"Raised by behavior bodies to reject a request with a 400.\"\"\"",
  "",
  "    def __init__(self, message: str, status_code: int = 400):",
  "        self.status_code = status_code",
  "        super().__init__(message)",
  "",
  "",
  "def register_error_handlers(app: FastAPI) -> None:",
  "    @app.exception_handler(NotFoundError)",
  "    async def _not_found(request: Request, exc: NotFoundError):",
  "        logger.info(f\"[NOT_FOUND] \x7bexc\x7d\")",
  "        return JSONResponse(status_code=404, content=\x7b\"detail\": str(exc)\x7d)",
  "",
  "    @app.exception_handler(ValidationError)",
  "    async def _invalid(request: Request, exc: ValidationError):",
  "        logger.info(f\"[INVALID] \x7bexc.error_count()\x7d error(s)\")",
  "        return JSONResponse(status_code=422, content=\x7b\"detail\": exc.errors(include_url=False)\x7d)",
  "",
  "    @app.exception_handler(BehaviorError)",
  "    async def _behavior(request: Request, exc: BehaviorError):",
  "        logger.warning(f\"[BEHAVIOR] \x7bexc\x7d\")",
  "        return JSONResponse(status_code=exc.status_code, content=\x7b\"detail\": str(exc)\x7d)",
  ""]

/-- The log of the server. -/
def loggingModule : List String := [
  "# app/core/logging.py",
  "from __future__ import annotations",
  "",
  "import contextvars",
  "import logging",
  "import os",
  "import re",
  "import sys",
  "import time",
  "",
  "RESET = \"\\033[0m\"",
  "",
  "# message tag -> ANSI color",
  "TAG_COLORS = \x7b",
  "    \"ERROR\": \"\\033[31m\",",
  "    \"NOT_FOUND\": \"\\033[33m\",",
  "    \"INVALID\": \"\\033[33m\",",
  "    \"BEHAVIOR\": \"\\033[36m\",",
  "    \"PERSIST\": \"\\033[36m\",",
  "    \"STARTUP\": \"\\033[32m\",",
  "\x7d",
  "",
  "_TAG = re.compile(r\"\\[([A-Z_]+)\\]\")",
  "",
  "request_id_cv = contextvars.ContextVar(\"request_id\", default=None)",
  "",
  "",
  "def _color_enabled(stream) -> bool:",
  "    if os.getenv(\"NO_COLOR\"):",
  "        return False",
  "    return os.getenv(\"FORCE_COLOR\") == \"1\" or getattr(stream, \"isatty\", lambda: False)()",
  "",
  "",
  "class ServerFormatter(logging.Formatter):",
  "    \"\"\"`time : LEVEL : logger [request] : message`, with colored [TAG]s on a terminal.\"\"\"",
  "",
  "    def __init__(self, color: bool = False):",
  "        super().__init__()",
  "        self.color = color",
  "",
  "    def format(self, record: logging.LogRecord) -> str:",
  "        stamp = time.strftime(\"%Y-%m-%d %H:%M:%S\", time.localtime(record.created))",
  "        request_id = request_id_cv.get()",
  "        where = f\"\x7brecord.name\x7d [\x7brequest_id[:8]\x7d]\" if request_id else record.name",
  "        message = record.getMessage()",
  "        if self.color:",
  "            message = _TAG.sub(",
  "                lambda m: f\"\x7bTAG_COLORS.get(m.group(1), RESET)\x7d[\x7bm.group(1)\x7d]\x7bRESET\x7d\",",
  "                message,",
  "            )",
  "        line = f\"\x7bstamp\x7d : \x7brecord.levelname:<5\x7d : \x7bwhere\x7d : \x7bmessage\x7d\"",
  "        if record.exc_info:",
  "            line += \"\\n\" + self.formatException(record.exc_info)",
  "        return line",
  "",
  "",
  "def configure_logging(level: str = \"INFO\", stream=None) -> None:",
  "    \"\"\"Send every logger to one stream handler; uvicorn stays quiet below DEBUG.\"\"\"",
  "    stream = stream or sys.stdout",
  "    numeric = logging.getLevelName(level.upper())",
  "    if not isinstance(numeric, int):",
  "        numeric = logging.INFO",
  "",
  "    handler = logging.StreamHandler(stream)",
  "    handler.setFormatter(ServerFormatter(color=_color_enabled(stream)))",
  "",
  "    root = logging.getLogger()",
  "    root.handlers.clear()",
  "    root.addHandler(handler)",
  "    root.setLevel(numeric)",
  "",
  "    quiet = numeric if numeric == logging.DEBUG else logging.WARNING",
  "    for name in (\"uvicorn\", \"uvicorn.error\"):",
  "        logging.getLogger(name).setLevel(quiet)",
  "    logging.getLogger(\"uvicorn.access\").setLevel(logging.WARNING)",
  "",
  "    logging.getLogger(\"ddsl.core\").info(f\"[STARTUP] logging at \x7blogging.getLevelName(numeric)\x7d\")",
  "",
  "",
  "def set_request_id(value: str) -> None:",
  "    request_id_cv.set(value)",
  ""]

/-- Data sources, in memory or in a database. -/
def persistenceModule : List String := [
  "# app/core/persistence.py",
  "\"\"\"",
  "Data sources used by generated business objects.",
  "",
  "A query filter is a dict with optional keys:",
  "    where   field -> value (equality, all must match)",
  "    order   \"field\", \"field DESC\", or a list of those",
  "    limit   maximum number of records",
  "    offset  records to skip",
  "\"\"\"",
  "",
  "import asyncio",
  "import itertools",
  "import logging",
  "from typing import Any, Optional",
  "",
  "from sqlmodel import Session, SQLModel, create_engine, func, select",
  "",
  "logger = logging.getLogger(\"ddsl.persistence\")",
  "",
  "",
  "def _order_clauses(order) -> list[tuple]:",
  "    if not order:",
  "        return []",
  "    items = [order] if isinstance(order, str) else list(order)",
  "    clauses = []",
  "    for item in items:",
  "        parts = item.split()",
  "        descending = len(parts) > 1 and parts[1].upper() == \"DESC\"",
  "        clauses.append((parts[0], descending))",
  "    return clauses",
  "",
  "",
  "class DataSource:",
  "    def __init__(self, name: str, models: Optional[dict] = None, id_fields: Optional[dict] = None, **options):",
  "        self.name = name",
  "        self.models = dict(models or \x7b\x7d)",
  "        self.id_fields = dict(id_fields or \x7b\x7d)",
  "        self.options = options",
  "",
  "    async def connect(self) -> None:",
  "        logger.info(f\"[PERSIST] \x7bself.name\x7d ready\")",
  "",
  "    async def find(self, entity_name: str, query_filter: dict) -> list[dict]:",
  "        raise NotImplementedError",
  "",
  "    async def count(self, entity_name: str, where: dict) -> int:",
  "        raise NotImplementedError",
  "",
  "    async def create(self, entity_name: str, items: list[dict]) -> list[dict]:",
  "        raise NotImplementedError",
  "",
  "    async def update(self, entity_name: str, where: dict, updates: dict) -> list[dict]:",
  "        raise NotImplementedError",
  "",
  "    async def delete(self, entity_name: str, where: dict) -> int:",
  "        raise NotImplementedError",
  "",
  "",
  "class MemoryDataSource(DataSource):",
  "    \"\"\"Records kept in process memory; identities are assigned incrementally.\"\"\"",
  "",
  "    def __init__(self, name: str, models: Optional[dict] = None, id_fields: Optional[dict] = None, **options):",
  "        super().__init__(name, models, id_fields, **options)",
  "        self._tables: dict[str, list[dict]] = \x7b\x7d",
  "        self._ids: dict[str, Any] = \x7b\x7d",
  "",
  "    def _table(self, entity_name: str) -> list[dict]:",
  "        return self._tables.setdefault(entity_name, [])",
  "",
  "    def _select(self, entity_name: str, where: dict) -> list[dict]:",
  "        return [r for r in self._table(entity_name) if all(r.get(k) == v for k, v in (where or \x7b\x7d).items())]",
  "",
  "    async def find(self, entity_name, query_filter):",
  "        query_filter = query_filter or \x7b\x7d",
  "        records = self._select(entity_name, query_filter.get(\"where\"))",
  "        for field, descending in reversed(_order_clauses(query_filter.get(\"order\"))):",
  "            records = sorted(records, key=lambda r: (r.get(field) is None, r.get(field)), reverse=descending)",
  "        offset = query_filter.get(\"offset\") or 0",
  "        limit = query_filter.get(\"limit\")",
  "        records = records[offset:offset + limit] if limit else records[offset:]",
  "        return [dict(r) for r in records]",
  "",
  "    async def count(self, entity_name, where):",
  "        return len(self._select(entity_name, where))",
  "",
  "    async def create(self, entity_name, items):",
  "        id_field = self.id_fields.get(entity_name, \"id\")",
  "        counter = self._ids.setdefault(entity_name, itertools.count(1))",
  "        created = []",
  "        for item in items:",
  "            record = dict(item)",
  "            if record.get(id_field) is None:",
  "                record[id_field] = next(counter)",
  "            self._table(entity_name).append(record)",
  "            created.append(dict(record))",
  "        return created",
  "",
  "    async def update(self, entity_name, where, updates):",
  "        updated = []",
  "        for record in self._select(entity_name, where):",
  "            record.update(updates)",
  "            updated.append(dict(record))",
  "        return updated",
  "",
  "    async def delete(self, entity_name, where):",
  "        doomed = self._select(entity_name, where)",
  "        self._tables[entity_name] = [r for r in self._table(entity_name) if r not in doomed]",
  "        return len(doomed)",
  "",
  "",
  "class SqlDataSource(DataSource):",
  "    \"\"\"SQLModel tables over a SQLAlchemy engine; calls run in worker threads.\"\"\"",
  "",
  "    def __init__(self, name: str, url: str, models: Optional[dict] = None, id_fields: Optional[dict] = None, **options):",
  "        super().__init__(name, models, id_fields, **options)",
  "        self.url = url",
  "        # data source settings are passed to the SQLAlchemy engine",
  "        engine_options = dict(options)",
  "        if url.startswith(\"sqlite\"):",
  "            engine_options.setdefault(\"connect_args\", \x7b\"check_same_thread\": False\x7d)",
  "        self.engine = create_engine(url, **engine_options)",
  "",
  "    async def connect(self) -> None:",
  "        await asyncio.to_thread(SQLModel.metadata.create_all, self.engine)",
  "        logger.info(f\"[PERSIST] \x7bself.name\x7d connected to \x7bself.engine.url.render_as_string(hide_password=True)\x7d\")",
  "",
  "    def _model(self, entity_name: str):",
  "        return self.models[entity_name]",
  "",
  "    def _where(self, statement, model, where: dict):",
  "        for field, value in (where or \x7b\x7d).items():",
  "            statement = statement.where(getattr(model, field) == value)",
  "        return statement",
  "",
  "    def _find(self, entity_name, query_filter):",
  "        model = self._model(entity_name)",
  "        statement = self._where(select(model), model, query_filter.get(\"where\"))",
  "        for field, descending in _order_clauses(query_filter.get(\"order\")):",
  "            column = getattr(model, field)",
  "            statement = statement.order_by(column.desc() if descending else column)",
  "        if query_filter.get(\"offset\"):",
  "            statement = statement.offset(query_filter[\"offset\"])",
  "        if query_filter.get(\"limit\"):",
  "            statement = statement.limit(query_filter[\"limit\"])",
  "        with Session(self.engine) as session:",
  "            return [row.model_dump() for row in session.exec(statement).all()]",
  "",
  "    def _count(self, entity_name, where):",
  "        model = self._model(entity_name)",
  "        statement = self._where(select(func.count()).select_from(model), model, where)",
  "        with Session(self.engine) as session:",
  "            return session.exec(statement).one()",
  "",
  "    def _create(self, entity_name, items):",
  "        model = self._model(entity_name)",
  "        rows = [model.model_validate(item) for item in items]",
  "        with Session(self.engine) as session:",
  "            session.add_all(rows)",
  "            session.commit()",
  "            for row in rows:",
  "                session.refresh(row)",
  "            return [row.model_dump() for row in rows]",
  "",
  "    def _update(self, entity_name, where, updates):",
  "        model = self._model(entity_name)",
  "        with Session(self.engine) as session:",
  "            rows = session.exec(self._where(select(model), model, where)).all()",
  "            for row in rows:",
  "                for field, value in updates.items():",
  "                    setattr(row, field, value)",
  "                session.add(row)",
  "            session.commit()",
  "            for row in rows:",
  "                session.refresh(row)",
  "            return [row.model_dump() for row in rows]",
  "",
  "    def _delete(self, entity_name, where):",
  "        model = self._model(entity_name)",
  "        with Session(self.engine) as session:",
  "            rows = session.exec(self._where(select(model), model, where)).all()",
  "            for row in rows:",
  "                session.delete(row)",
  "            session.commit()",
  "            return len(rows)",
  "",
  "    async def find(self, entity_name, query_filter):",
  "        return await asyncio.to_thread(self._find, entity_name, query_filter or \x7b\x7d)",
  "",
  "    async def count(self, entity_name, where):",
  "        return await asyncio.to_thread(self._count, entity_name, where)",
  "",
  "    async def create(self, entity_name, items):",
  "        return await asyncio.to_thread(self._create, entity_name, items)",
  "",
  "    async def update(self, entity_name, where, updates):",
  "        return await asyncio.to_thread(self._update, entity_name, where, updates)",
  "",
  "    async def delete(self, entity_name, where):",
  "        return await asyncio.to_thread(self._delete, entity_name, where)",
  "",
  "",
  "DATA_SOURCE_TYPES = \x7b",
  "    \"Memory\": MemoryDataSource,",
  "    \"Sql\": SqlDataSource,",
  "    \"Sqlite\": SqlDataSource,",
  "    \"Postgres\": SqlDataSource,",
  "    \"MySql\": SqlDataSource,",
  "\x7d",
  "",
  "",
  "def create_data_source(name: str, persistence_type: str, url: str = \"\", models=None, id_fields=None, options=None) -> DataSource:",
  "    cls = DATA_SOURCE_TYPES.get(persistence_type)",
  "    if cls is None:",
  "        raise ValueError(f\"Unknown persistence type '\x7bpersistence_type\x7d' for data source \x7bname\x7d\")",
  "    if cls is MemoryDataSource:",
  "        return cls(name, models, id_fields, **(options or \x7b\x7d))",
  "    return cls(name, url, models, id_fields, **(options or \x7b\x7d))",
  ""]

end Blueprint.Server.Runtime
